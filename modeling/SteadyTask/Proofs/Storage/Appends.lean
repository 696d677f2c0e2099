import Mathlib.Tactic
import SteadyTask.Storage.Folder

/-!
# Text added to one file again and again

The first time that text is added to a file, the folders on the way and the file itself may have to
be made.  From then on the file is there, the folders are as they were left, and whatever is added
goes behind what the file has.  So it is enough that the file can be made at all: then text can be
added any number of times.

A path may lead through a folder and up again.  While that folder is missing such a path leads
nowhere, also where there is a file at its end; so that there is no file is a statement about the
place that the names of the path lead to.
-/

namespace SteadyTask.Storage

namespace Folder

variable {f : Folder} {p : Path} {place : Place}

theorem filePlace?_eq_some_iff :
    f.filePlace? p = some place ↔
      p.endsAtFolder = false ∧ f.follow p = .ok place ∧ f.isFolder place = false := by
  rw [filePlace?]
  cases p.endsAtFolder with
  | true => simp
  | false =>
      cases f.follow p with
      | error e => simp [Except.toOption]
      | ok stop =>
          simp only [Except.toOption, Option.filter_eq_some_iff, Option.some.injEq,
            Except.ok.injEq, Bool.not_eq_true', Bool.false_eq_true, if_false, true_and]

/-! ## Where a path leads -/

/-- Following names leads to the place that the names lead to, if anywhere. -/
theorem eq_of_descend {start stop : Place} {names : List String}
    (h : f.descend start names = .ok stop) : stop = names.foldl Place.go start := by
  induction names generalizing start with
  | nil => simpa [descend] using h.symm
  | cons name rest ih =>
      rw [descend, enter] at h
      split at h
      · cases h
      · next next hNext =>
          split at hNext
          · cases hNext
          · cases hNext
            split at h
            · exact ih h
            · cases h

/-- A path that leads somewhere leads through folders that are there. -/
theorem descend_of_follow (h : f.follow p = .ok place) :
    p.canBeFollowed = true ∧ ∃ stop, f.descend [] p.names.dropLast = .ok stop := by
  unfold follow at h
  split at h
  · next hFollowed =>
      refine ⟨hFollowed, ?_⟩
      cases hDescend : f.descend [] p.names.dropLast with
      | error e => simp [hDescend] at h
      | ok stop => exact ⟨stop, rfl⟩
  · cases h

theorem eq_ofNames_of_follow (h : f.follow p = .ok place) : place = Place.ofNames p.names := by
  obtain ⟨hFollowed, stop, hDescend⟩ := descend_of_follow h
  have hStop : stop = p.names.dropLast.foldl Place.go [] := eq_of_descend hDescend
  rw [follow, if_pos hFollowed, hDescend] at h
  cases hLast : p.names.getLast? with
  | none =>
      have hNames : p.names = [] := List.getLast?_eq_none_iff.mp hLast
      rw [hNames] at hStop
      simpa [hLast, hNames, hStop, Place.ofNames] using h.symm
  | some name =>
      have hNames : p.names = p.names.dropLast ++ [name] :=
        (List.dropLast_append_getLast? name hLast).symm
      simp only [hLast, enter] at h
      split at h
      · cases h
      · cases h
        rw [Place.ofNames, hNames, List.foldl_append, hStop]
        rfl

/-! ## Making folders -/

theorem isFolder_addFolder {other : Place} (h : f.isFolder other = true) :
    (f.addFolder place).isFolder other = true := by
  unfold addFolder
  split
  · exact h
  · simp only [isFolder, Bool.or_eq_true, List.any_cons] at h ⊢
    tauto

theorem isFolder_makeFolders {other : Place} (names : List String)
    (h : f.isFolder other = true) : (f.makeFolders place names).isFolder other = true := by
  induction names generalizing f place with
  | nil => exact h
  | cons name rest ih =>
      rw [makeFolders]
      split
      · exact h
      · split
        · exact h
        · exact ih (isFolder_addFolder h)

/-- Where all folders are there none is made. -/
theorem makeFolders_of_descend {start stop : Place} {names : List String}
    (h : f.descend start names = .ok stop) : f.makeFolders start names = f := by
  induction names generalizing start with
  | nil => rfl
  | cons name rest ih =>
      rw [descend] at h
      rw [makeFolders]
      split at h
      · cases h
      · next next hNext =>
          split at h
          · next hFolder =>
              simp only [addFolder, if_pos hFolder, ih h, ite_self]
          · cases h

/-- Where the names lead on once their folders are made, at most folders were missing before. -/
theorem descend_or_missing_of_makeFolders {start stop : Place} {names : List String}
    (h : (f.makeFolders start names).descend start names = .ok stop) :
    f.descend start names = .ok stop ∨ f.descend start names = .error .missing := by
  induction names generalizing start with
  | nil => exact Or.inl h
  | cons name rest ih =>
      cases hNext : enter start name with
      | error e => simp [descend, hNext] at h
      | ok next =>
          cases hFolder : f.isFolder next with
          | true =>
              have hMade : (f.makeFolders next rest).isFolder next = true :=
                isFolder_makeFolders rest hFolder
              cases hText : (f.text? next).isSome with
              | true =>
                  left
                  simpa [makeFolders, hNext, hText] using h
              | false =>
                  have hRest : (f.makeFolders next rest).descend next rest = .ok stop := by
                    simpa [makeFolders, descend, hNext, hText, addFolder, hFolder, hMade] using h
                  simpa [descend, hNext, hFolder] using ih hRest
          | false =>
              cases hText : (f.text? next).isSome with
              | true => simp [makeFolders, descend, hNext, hText, hFolder] at h
              | false =>
                  right
                  simp [descend, hNext, hFolder, hText]

/-- A folder with the folders on the way of a path, as far as they could be made. -/
def withFolders (f : Folder) (p : Path) : Folder :=
  if p.canBeFollowed then f.makeFolders [] p.names.dropLast else f

theorem text?_withFolders (f : Folder) (p : Path) (place : Place) :
    (f.withFolders p).text? place = f.text? place := by
  rw [withFolders]
  split
  · rw [text?, text?, files_makeFolders]
  · rfl

theorem withFolders_of_follow (h : f.follow p = .ok place) : f.withFolders p = f := by
  obtain ⟨hFollowed, stop, hDescend⟩ := descend_of_follow h
  rw [withFolders, if_pos hFollowed, makeFolders_of_descend hDescend]

theorem append_eq (f : Folder) (p : Path) (text : String) :
    f.append p text =
      match (f.withFolders p).filePlace? p with
      | none => (f.withFolders p, false)
      | some place =>
        ((f.withFolders p).withFile place (((f.withFolders p).text? place).getD "" ++ text),
          true) :=
  rfl

/-- Whether text can be added does not depend on the text. -/
theorem append_of_filePlace? (h : (f.withFolders p).filePlace? p = some place) (text : String) :
    f.append p text =
      ((f.withFolders p).withFile place ((f.text? place).getD "" ++ text), true) := by
  simp only [append_eq, h, text?_withFolders]

theorem exists_filePlace?_of_append {text : String} (h : (f.append p text).2 = true) :
    ∃ place, (f.withFolders p).filePlace? p = some place := by
  rw [append_eq] at h
  cases hPlace : (f.withFolders p).filePlace? p with
  | none => simp [hPlace] at h
  | some place => exact ⟨place, rfl⟩

/-! ## A file at the end of a path -/

/-- The file at the end of a path can be added to, and holds a text. -/
def Holds (f : Folder) (p : Path) (text : String) : Prop :=
  ∃ place, f.filePlace? p = some place ∧ f.text? place = some text

theorem Holds.read {text : String} (h : f.Holds p text) : f.read p = .ok text := by
  obtain ⟨place, hPlace, hText⟩ := h
  obtain ⟨hEnd, hFollow, -⟩ := filePlace?_eq_some_iff.mp hPlace
  simp [Folder.read, hFollow, hText, hEnd]

/-- Only files below a place make it a folder, and no place is below itself. -/
theorem isFolder_withFile_self (f : Folder) (place : Place) (text : String) :
    (f.withFile place text).isFolder place = f.isFolder place := by
  have hSelf : place.isBelow place = false := by simp [Place.isBelow]
  have hFiles (files : List (Place × String)) :
      (put place text files).any (fun file => file.1.isBelow place) =
        files.any fun file => file.1.isBelow place := by
    induction files with
    | nil => simp [put, hSelf]
    | cons file rest ih =>
        rw [put]
        split
        · next hSame => simp [hSame]
        · simp [ih]
  simp only [isFolder, withFile, hFiles]

theorem holds_withFile (h : f.filePlace? p = some place) (text : String) :
    (f.withFile place text).Holds p text := by
  obtain ⟨hEnd, hFollow, hFolder⟩ := filePlace?_eq_some_iff.mp h
  refine ⟨place, filePlace?_eq_some_iff.mpr ⟨hEnd, follow_withFile hFollow, ?_⟩, by simp⟩
  rw [isFolder_withFile_self, hFolder]

/-- What is added goes behind what the file has, and the file can be added to again. -/
theorem Holds.append {text : String} (h : f.Holds p text) (more : String) :
    (f.append p more).2 = true ∧ (f.append p more).1.Holds p (text ++ more) := by
  obtain ⟨place, hPlace, hText⟩ := h
  have hFolders : f.withFolders p = f :=
    withFolders_of_follow (filePlace?_eq_some_iff.mp hPlace).2.1
  rw [append_of_filePlace? (by rw [hFolders]; exact hPlace), hFolders, hText]
  exact ⟨rfl, holds_withFile hPlace _⟩

/-! ## A file that is not there yet -/

section Absent

variable (hAbsent : f.text? (Place.ofNames p.names) = none) {text : String}
  (hRoom : (f.append p text).2 = true)

include hAbsent hRoom

/-- Where a file can be made but there is none, nothing is found. -/
theorem read_of_absent : f.read p = .error .missing := by
  obtain ⟨place, hPlace⟩ := exists_filePlace?_of_append hRoom
  obtain ⟨-, hFollow, hFolder⟩ := filePlace?_eq_some_iff.mp hPlace
  obtain ⟨hFollowed, stop, hDescend⟩ := descend_of_follow hFollow
  have hBefore : f.descend [] p.names.dropLast = .ok stop ∨
      f.descend [] p.names.dropLast = .error .missing := by
    rw [withFolders, if_pos hFollowed] at hDescend
    exact descend_or_missing_of_makeFolders hDescend
  rcases hBefore with hThere | hMissing
  · -- no folder had to be made, so the file is looked for in the same place
    have hFolders : f.withFolders p = f := by
      rw [withFolders, if_pos hFollowed, makeFolders_of_descend hThere]
    rw [hFolders] at hFollow hFolder
    have hText : f.text? place = none := by
      rw [eq_ofNames_of_follow hFollow]
      exact hAbsent
    simp [Folder.read, hFollow, hText, hFolder]
  · simp [Folder.read, follow, hFollowed, hMissing]

/-- The first text that is added to a file is all that it holds. -/
theorem holds_of_absent (first : String) :
    (f.append p first).2 = true ∧ (f.append p first).1.Holds p first := by
  obtain ⟨place, hPlace⟩ := exists_filePlace?_of_append hRoom
  have hText : f.text? place = none := by
    rw [eq_ofNames_of_follow (filePlace?_eq_some_iff.mp hPlace).2.1]
    exact hAbsent
  rw [append_of_filePlace? hPlace, hText]
  refine ⟨rfl, ?_⟩
  simpa using holds_withFile hPlace first

end Absent

end Folder

end SteadyTask.Storage
