import FlowBoard.Proofs.Machine.Files

/-!
# Directories that are made

Making a directory makes those above it that are missing, and nothing else. It succeeds just when
directories can be put where there is nothing so that the path leads to a directory: whatever such
files there are, every directory that is made is one of theirs.
-/

namespace FlowBoard

variable {fs fs' fs₁ : FileSystem} {path : Path} {place found : Place} {part : String}
  {parts : List String}

/-! ## Paths that the system takes -/

/-- A path without a null character that is not too long. -/
def Path.Fits (path : Path) : Prop :=
  Char.ofNat 0 ∉ path.text.toList ∧ Text.byteLength path.text ≤ FileSystem.maxPath

theorem Text.byteLength_append (s t : String) :
    byteLength (s ++ t) = byteLength s + byteLength t := by
  simp [byteLength, encode, String.toList_append]

theorem Path.text_of_ne_here {slashes : Nat} {parts : List String}
    (h : ¬(slashes = 0 ∧ parts = [])) : Path.text ⟨slashes, parts⟩ =
      String.ofList (List.replicate slashes '/') ++ String.intercalate "/" parts := by
  rw [text, if_neg (by simpa using h)]

/-- A path starts with that of its parent, unless the parent is the working directory. -/
theorem Path.text_parent (path : Path) :
    path.parent.text = "." ∨ ∃ rest, path.text = path.parent.text ++ rest := by
  obtain ⟨slashes, parts⟩ := path
  rcases parts.eq_nil_or_concat with rfl | ⟨above, last, rfl⟩
  · exact .inr ⟨"", by simp [parent]⟩
  · have hparent : parent ⟨slashes, above ++ [last]⟩ = ⟨slashes, above⟩ := by simp [parent]
    rw [List.concat_eq_append, hparent]
    by_cases hhere : slashes = 0 ∧ above = []
    · exact .inl (by simp [text, hhere])
    · right
      rw [text_of_ne_here hhere, text_of_ne_here (by simp)]
      by_cases habove : above = []
      · exact ⟨last, by simp [habove]⟩
      · refine ⟨"/" ++ last, ?_⟩
        rw [String.intercalate_append_of_ne_nil habove (by simp), String.intercalate_singleton]
        simp only [String.append_assoc]

theorem Path.Fits.parent (h : path.Fits) : path.parent.Fits := by
  rcases path.text_parent with hhere | ⟨rest, htext⟩
  · rw [Fits, hhere]
    decide
  · obtain ⟨hnull, hlength⟩ := h
    rw [htext, String.toList_append, List.mem_append, not_or] at hnull
    rw [htext, Text.byteLength_append] at hlength
    exact ⟨hnull.1, by omega⟩

namespace FileSystem

/-! ## Walks -/

/-- Where one part leads to. -/
def step (place : Place) (part : String) : Place :=
  if part = ".." then place.dropLast else place ++ [part]

theorem walk_cons_eq_ok_iff : fs.walk place (part :: parts) = .ok found ↔
    fs.entry? place = some .directory ∧ Text.byteLength part ≤ maxPart ∧
      fs.walk (step place part) parts = .ok found := by
  rw [walk, step, ← Nat.not_lt]
  cases fs.entry? place with
  | none => simp
  | some entry =>
    cases entry with
    | file c => simp
    | directory =>
      by_cases hlong : maxPart < Text.byteLength part
      · simp [hlong]
      · simp only [if_neg hlong]
        split_ifs <;> simp [hlong]

theorem walk_append_eq_ok_iff {more : List String} :
    fs.walk place (parts ++ more) = .ok found ↔
      ∃ halfway, fs.walk place parts = .ok halfway ∧ fs.walk halfway more = .ok found := by
  induction parts generalizing place with
  | nil => simp [walk]
  | cons part parts ih =>
    simp only [List.cons_append, walk_cons_eq_ok_iff, ih]
    constructor
    · rintro ⟨hdirectory, hlength, halfway, hparts, hmore⟩
      exact ⟨halfway, ⟨hdirectory, hlength, hparts⟩, hmore⟩
    · rintro ⟨halfway, ⟨hdirectory, hlength, hparts⟩, hmore⟩
      exact ⟨hdirectory, hlength, halfway, hparts, hmore⟩

theorem locate_eq_ok_iff : fs.locate path = .ok found ↔
    path.Fits ∧ fs.walk (start path) path.parts = .ok found := by
  rw [locate, Path.Fits, ← Nat.not_lt]
  split_ifs with hnull hlong
  · simp_all
  · simp [hlong]
  · have hno : Char.ofNat 0 ∉ path.text.toList := by simpa using hnull
    simp [hno, hlong]

theorem isDirectory_iff : fs.isDirectory path = true ↔
    ∃ found, fs.locate path = .ok found ∧ fs.entry? found = some .directory := by
  rw [isDirectory, find]
  cases hlocate : fs.locate path with
  | error e => simp
  | ok found =>
    cases hentry : fs.entry? found with
    | none => simp [hentry]
    | some entry => cases entry <;> simp [hentry]

/-- Above a directory there are directories. -/
theorem isDirectory_parent (h : fs.isDirectory path = true) :
    fs.isDirectory path.parent = true := by
  rw [isDirectory_iff] at h ⊢
  obtain ⟨found, hlocate, hdirectory⟩ := h
  obtain ⟨hfits, hwalk⟩ := locate_eq_ok_iff.mp hlocate
  rcases path.parts.eq_nil_or_concat with hparts | ⟨above, last, hparts⟩
  · have hparent : path.parent = path := by rw [Path.parent, hparts, List.dropLast_nil, ← hparts]
    rw [hparent]
    exact ⟨found, hlocate, hdirectory⟩
  · rw [hparts, List.concat_eq_append, walk_append_eq_ok_iff] at hwalk
    obtain ⟨halfway, hhalfway, hlast⟩ := hwalk
    have habove : path.parent.parts = above := by simp [Path.parent, hparts]
    refine ⟨halfway, locate_eq_ok_iff.mpr ⟨hfits.parent, ?_⟩, (walk_cons_eq_ok_iff.mp hlast).1⟩
    rw [habove]
    exact hhalfway

/-! ## More directories -/

/-- The second files are the first ones, and directories where there was nothing. -/
def AddsDirectories (fs fs' : FileSystem) : Prop :=
  ∀ place, fs'.entry? place = fs.entry? place ∨
    fs.entry? place = none ∧ fs'.entry? place = some .directory

namespace AddsDirectories

theorem refl (fs : FileSystem) : fs.AddsDirectories fs := fun _ => .inl rfl

theorem trans (h : fs.AddsDirectories fs₁) (h' : fs₁.AddsDirectories fs') :
    fs.AddsDirectories fs' := by
  intro place
  rcases h' place with heq | ⟨hnone, hdirectory⟩
  · rw [heq]
    exact h place
  · rcases h place with heq | ⟨-, hbefore⟩
    · exact .inr ⟨heq.symm.trans hnone, hdirectory⟩
    · rw [hnone] at hbefore
      cases hbefore

theorem directory (h : fs.AddsDirectories fs') (hplace : fs.entry? place = some .directory) :
    fs'.entry? place = some .directory := by
  rcases h place with heq | ⟨-, hdirectory⟩
  · exact heq.trans hplace
  · exact hdirectory

/-- Where there is a directory there was one, or nothing. -/
theorem before (h : fs.AddsDirectories fs') (hplace : fs'.entry? place = some .directory) :
    fs.entry? place = some .directory ∨ fs.entry? place = none := by
  rcases h place with heq | ⟨hnone, -⟩
  · exact .inl (heq.symm.trans hplace)
  · exact .inr hnone

theorem walk (h : fs.AddsDirectories fs') (hwalk : fs.walk place parts = .ok found) :
    fs'.walk place parts = .ok found := by
  induction parts generalizing place with
  | nil => exact hwalk
  | cons part parts ih =>
    rw [walk_cons_eq_ok_iff] at hwalk ⊢
    obtain ⟨hdirectory, hlength, hrest⟩ := hwalk
    exact ⟨h.directory hdirectory, hlength, ih hrest⟩

/-- A walk that passes only where there are more directories meets nothing else on its way. -/
theorem walk_before (h : fs.AddsDirectories fs') (hwalk : fs'.walk place parts = .ok found) :
    fs.walk place parts = .ok found ∨ fs.walk place parts = .error .notFound := by
  induction parts generalizing place with
  | nil => exact .inl hwalk
  | cons part parts ih =>
    obtain ⟨hdirectory, hlength, hrest⟩ := walk_cons_eq_ok_iff.mp hwalk
    rcases h.before hdirectory with hbefore | hnone
    · rw [FileSystem.walk, hbefore]
      simp only [if_neg (Nat.not_lt.mpr hlength)]
      have hstep := ih hrest
      rw [step] at hstep
      split_ifs at hstep ⊢ <;> exact hstep
    · right
      rw [FileSystem.walk, hnone]

theorem locate (h : fs.AddsDirectories fs') (hlocate : fs.locate path = .ok found) :
    fs'.locate path = .ok found := by
  obtain ⟨hfits, hwalk⟩ := locate_eq_ok_iff.mp hlocate
  exact locate_eq_ok_iff.mpr ⟨hfits, h.walk hwalk⟩

theorem locate_before (h : fs.AddsDirectories fs') (hlocate : fs'.locate path = .ok found) :
    fs.locate path = .ok found ∨ fs.locate path = .error .notFound := by
  obtain ⟨hfits, hwalk⟩ := locate_eq_ok_iff.mp hlocate
  have hnull : path.text.toList.contains (Char.ofNat 0) = false := by simpa using hfits.1
  rw [FileSystem.locate, hnull, if_neg Bool.false_ne_true, if_neg (Nat.not_lt.mpr hfits.2)]
  exact h.walk_before hwalk

end AddsDirectories

/-- The files after a directory was put at a place. -/
def withDirectory (fs : FileSystem) (place : Place) : FileSystem :=
  ⟨Keyed.put place .directory fs.entries⟩

theorem entry?_withDirectory (hnone : fs.entry? place = none) (other : Place) :
    FileSystem.entry? (fs.withDirectory place) other =
      if place = other then some .directory else fs.entry? other :=
  entry?_put (by simp [hnone]) .directory other

theorem addsDirectories_withDirectory (hnone : fs.entry? place = none) :
    fs.AddsDirectories (fs.withDirectory place) := by
  intro other
  rw [entry?_withDirectory hnone]
  split_ifs with hplace
  · exact .inr ⟨hplace ▸ hnone, rfl⟩
  · exact .inl rfl

/-- Of the directories that more files have, one may be put first. -/
theorem AddsDirectories.withDirectory (h : fs.AddsDirectories fs')
    (hnone : fs.entry? place = none) (hdirectory : fs'.entry? place = some .directory) :
    AddsDirectories (fs.withDirectory place) fs' := by
  intro other
  rw [entry?_withDirectory hnone]
  split_ifs with hplace
  · exact .inl (hplace ▸ hdirectory)
  · exact h other

/-! ## Making directories -/

theorem makeDirectory_eq_ok_iff : fs.makeDirectory path = .ok fs₁ ↔
    ∃ place, fs.locate path = .ok place ∧ fs.entry? place = none ∧
      fs₁ = fs.withDirectory place := by
  rw [makeDirectory]
  cases fs.locate path with
  | error e => simp
  | ok place =>
    cases hentry : fs.entry? place with
    | none => simp [hentry, withDirectory, eq_comm]
    | some entry => simp [hentry]

theorem of_makeDirectory (h : fs.makeDirectory path = .ok fs₁) :
    fs.AddsDirectories fs₁ ∧ fs₁.isDirectory path = true := by
  obtain ⟨place, hlocate, hnone, rfl⟩ := makeDirectory_eq_ok_iff.mp h
  have hadds := addsDirectories_withDirectory hnone
  refine ⟨hadds, isDirectory_iff.mpr ⟨place, hadds.locate hlocate, ?_⟩⟩
  rw [entry?_withDirectory hnone, if_pos rfl]

theorem unlessThere_eq_ok_iff {e : FileFault} :
    fs.unlessThere path e = .ok fs₁ ↔ fs.isDirectory path = true ∧ fs₁ = fs := by
  rw [unlessThere]
  split_ifs with hthere
  · simp [hthere, eq_comm]
  · simp [hthere]

/-- One directory is made, or is there. -/
def Makes (fs : FileSystem) (path : Path) (fs₁ : FileSystem) : Prop :=
  fs.makeDirectory path = .ok fs₁ ∨ fs.isDirectory path = true ∧ fs₁ = fs

theorem Makes.adds (h : fs.Makes path fs₁) :
    fs.AddsDirectories fs₁ ∧ fs₁.isDirectory path = true := by
  rcases h with hmade | ⟨hthere, rfl⟩
  · exact of_makeDirectory hmade
  · exact ⟨.refl fs₁, hthere⟩

theorem makeDirectory_of_isDirectory (h : fs.isDirectory path = true) :
    fs.makeDirectory path = .error .alreadyExists := by
  obtain ⟨found, hlocate, hdirectory⟩ := isDirectory_iff.mp h
  rw [makeDirectory, hlocate]
  simp only [hdirectory]

theorem makeDirectoriesTo_of_makes (h : fs.Makes path fs₁) (depth : Nat) :
    makeDirectoriesTo depth fs path = .ok fs₁ := by
  rcases h with hmade | ⟨hthere, rfl⟩
  · cases depth <;> rw [makeDirectoriesTo, hmade]
  · cases depth <;> rw [makeDirectoriesTo, makeDirectory_of_isDirectory hthere] <;>
      exact unlessThere_eq_ok_iff.mpr ⟨hthere, rfl⟩

/-- A directory is made after those above it. -/
theorem makeDirectoriesTo_of_missing {depth : Nat} {fs₂ : FileSystem}
    (hmissing : fs.makeDirectory path = .error .notFound)
    (habove : makeDirectoriesTo depth fs path.parent = .ok fs₂) (h : fs₂.Makes path fs₁) :
    makeDirectoriesTo (depth + 1) fs path = .ok fs₁ := by
  rw [makeDirectoriesTo, hmissing, habove]
  simp only [bind, Except.bind]
  rcases h with hmade | ⟨hthere, rfl⟩
  · rw [hmade]
  · rw [makeDirectory_of_isDirectory hthere]
    exact unlessThere_eq_ok_iff.mpr ⟨hthere, rfl⟩

/-- Directories are made at once, or after those above them. -/
theorem makes_of_makeDirectoriesTo {depth : Nat}
    (h : makeDirectoriesTo depth fs path = .ok fs₁) : fs.Makes path fs₁ ∨
      ∃ depth' < depth, ∃ fs₂, makeDirectoriesTo depth' fs path.parent = .ok fs₂ ∧
        fs₂.Makes path fs₁ := by
  cases depth with
  | zero =>
    rw [makeDirectoriesTo] at h
    split at h
    · next hmade => exact .inl (.inl (hmade.trans (congrArg Except.ok (Except.ok.inj h))))
    · exact .inl (.inr (unlessThere_eq_ok_iff.mp h))
  | succ depth =>
    rw [makeDirectoriesTo] at h
    split at h
    · next hmade => exact .inl (.inl (hmade.trans (congrArg Except.ok (Except.ok.inj h))))
    · cases habove : makeDirectoriesTo depth fs path.parent with
      | error e =>
        rw [habove] at h
        cases h
      | ok fs₂ =>
        rw [habove] at h
        refine .inr ⟨depth, Nat.lt_succ_self depth, fs₂, habove, ?_⟩
        simp only [bind, Except.bind] at h
        split at h
        · next hmade => exact .inl (hmade.trans (congrArg Except.ok (Except.ok.inj h)))
        · cases h
        · exact .inr (unlessThere_eq_ok_iff.mp h)
    · exact .inl (.inr (unlessThere_eq_ok_iff.mp h))

/-- After it was made the directory is there, and directories were added, but nothing else. -/
theorem of_makeDirectoriesTo {depth : Nat} (h : makeDirectoriesTo depth fs path = .ok fs₁) :
    fs.AddsDirectories fs₁ ∧ fs₁.isDirectory path = true := by
  induction depth using Nat.strong_induction_on generalizing path fs₁ with
  | _ depth ih =>
    rcases makes_of_makeDirectoriesTo h with hmakes | ⟨depth', hdepth, fs₂, habove, hmakes⟩
    · exact hmakes.adds
    · exact ⟨(ih depth' hdepth habove).1.trans hmakes.adds.1, hmakes.adds.2⟩

section Enough

variable (h : fs.AddsDirectories fs') (hpath : fs'.isDirectory path = true)
include h hpath

/-- Where more directories would do, one is made or is there, unless one above it is missing. -/
theorem makes_or_missing : (∃ fs₁, fs.Makes path fs₁ ∧ fs₁.AddsDirectories fs') ∨
    fs.makeDirectory path = .error .notFound ∧ fs.locate path = .error .notFound := by
  obtain ⟨found, hlocate, hdirectory⟩ := isDirectory_iff.mp hpath
  rcases h.locate_before hlocate with hfound | hmissing
  · left
    rcases h.before hdirectory with hthere | hnone
    · exact ⟨fs, .inr ⟨isDirectory_iff.mpr ⟨found, hfound, hthere⟩, rfl⟩, h⟩
    · exact ⟨fs.withDirectory found, .inl (makeDirectory_eq_ok_iff.mpr ⟨found, hfound, hnone, rfl⟩),
        h.withDirectory hnone hdirectory⟩
  · exact .inr ⟨by rw [makeDirectory, hmissing], hmissing⟩

/-- A path is found where the one above it leads to a directory. -/
theorem locate_of_isDirectory_parent (hparent : fs.isDirectory path.parent = true) :
    ∃ found, fs.locate path = .ok found := by
  obtain ⟨found, hlocate, -⟩ := isDirectory_iff.mp hpath
  obtain ⟨hfits, hwalk⟩ := locate_eq_ok_iff.mp hlocate
  obtain ⟨halfway, habove, hdirectory⟩ := isDirectory_iff.mp hparent
  have hhalfway := (locate_eq_ok_iff.mp habove).2
  refine ⟨found, locate_eq_ok_iff.mpr ⟨hfits, ?_⟩⟩
  rcases path.parts.eq_nil_or_concat with hparts | ⟨above, last, hparts⟩
  · rw [hparts] at hwalk ⊢
    exact hwalk
  · rw [List.concat_eq_append] at hparts
    have hup : path.parent.parts = above := by simp [Path.parent, hparts]
    rw [hup] at hhalfway
    rw [hparts, walk_append_eq_ok_iff] at hwalk ⊢
    obtain ⟨halfway', hhalfway', hlast⟩ := hwalk
    obtain rfl : halfway = halfway' :=
      Except.ok.inj ((h.walk hhalfway).symm.trans hhalfway')
    obtain ⟨-, hlength, hstep⟩ := walk_cons_eq_ok_iff.mp hlast
    exact ⟨halfway, hhalfway, walk_cons_eq_ok_iff.mpr ⟨hdirectory, hlength, hstep⟩⟩

theorem exists_makeDirectoriesTo {depth : Nat} (hdepth : path.parts.length ≤ depth) :
    ∃ fs₁, makeDirectoriesTo depth fs path = .ok fs₁ ∧ fs₁.AddsDirectories fs' := by
  -- What is made on the way up never goes beyond `fs'`, so `fs'` still bears out the next attempt.
  induction depth generalizing path with
  | zero =>
    rcases makes_or_missing h hpath with ⟨fs₁, hmakes, hadds⟩ | ⟨-, hmissing⟩
    · exact ⟨fs₁, makeDirectoriesTo_of_makes hmakes 0, hadds⟩
    · obtain ⟨found, hlocate, -⟩ := isDirectory_iff.mp hpath
      have hparts : path.parts = [] := List.length_eq_zero_iff.mp (Nat.le_zero.mp hdepth)
      have hstart : fs.locate path = .ok (start path) :=
        locate_eq_ok_iff.mpr ⟨(locate_eq_ok_iff.mp hlocate).1, by rw [hparts, walk]⟩
      rw [hstart] at hmissing
      cases hmissing
  | succ depth ih =>
    rcases makes_or_missing h hpath with ⟨fs₁, hmakes, hadds⟩ | ⟨hmissing, -⟩
    · exact ⟨fs₁, makeDirectoriesTo_of_makes hmakes (depth + 1), hadds⟩
    · have hup : path.parent.parts.length ≤ depth := by
        rw [Path.parent, List.length_dropLast]
        omega
      obtain ⟨fs₂, habove, hadds⟩ := ih (isDirectory_parent hpath) hup
      have hparent := (of_makeDirectoriesTo habove).2
      obtain ⟨found, hfound⟩ := locate_of_isDirectory_parent hadds hpath hparent
      rcases makes_or_missing hadds hpath with ⟨fs₁, hmakes, hadds₁⟩ | ⟨-, hlost⟩
      · exact ⟨fs₁, makeDirectoriesTo_of_missing hmissing habove hmakes, hadds₁⟩
      · rw [hfound] at hlost
        cases hlost

end Enough

/-- The directory at a path can be made just when adding directories is enough for it. -/
theorem makeDirectories_eq_ok_iff (fs : FileSystem) (path : Path) :
    (∃ fs₁, fs.makeDirectories path = .ok fs₁) ↔
      ∃ fs', fs.AddsDirectories fs' ∧ fs'.isDirectory path = true := by
  constructor
  · rintro ⟨fs₁, hmade⟩
    exact ⟨fs₁, of_makeDirectoriesTo hmade⟩
  · rintro ⟨fs', hadds, hpath⟩
    obtain ⟨fs₁, hmade, -⟩ := exists_makeDirectoriesTo hadds hpath (Nat.le_refl _)
    exact ⟨fs₁, hmade⟩

end FileSystem

end FlowBoard
