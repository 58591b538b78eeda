import FlowBoard.Proofs.Keyed
import FlowBoard.Proofs.Machine.Run
import FlowBoard.Proofs.Text.LineEnds

/-!
# Files of the working directory

A path that is a file name and nothing else leads to a place in the working directory, whatever
files there are. So a text can be written there unless the name is too long or a directory has
it, and what is read there is what was written last. Any path at all that a text was written to
leads to that text.
-/

namespace FlowBoard

namespace Text

theorem splitOn_of_not_mem {sep : Char} {cs : List Char} (h : sep ∉ cs) :
    splitOn sep cs = [cs] := by
  induction cs with
  | nil => rfl
  | cons c rest ih =>
    rw [List.mem_cons, not_or] at h
    rw [splitOn, if_neg (Ne.symm h.1), ih h.2]

end Text

/-- A name without slashes and null characters that is no step to a directory. -/
structure IsFileName (s : String) : Prop where
  noSlash : '/' ∉ s.toList
  noNull : Char.ofNat 0 ∉ s.toList
  notEmpty : s ≠ ""
  notHere : s ≠ "."
  notAbove : s ≠ ".."

theorem Path.ofString_of_isFileName {s : String} (h : IsFileName s) :
    Path.ofString s = ⟨0, [s]⟩ := by
  have hslashes : s.toList.takeWhile (· == '/') = [] := by
    cases hcs : s.toList with
    | nil => rfl
    | cons c rest =>
      have hc : c ≠ '/' := fun hc => h.noSlash (by simp [hcs, hc])
      simp [hc]
  have hparts : Path.partsOf s.toList = [s] := by
    simp [Path.partsOf, Text.splitOn_of_not_mem h.noSlash, h.notEmpty, h.notHere]
  rw [Path.ofString, hslashes, hparts]
  rfl

theorem Path.parent_of_isFileName {s : String} (h : IsFileName s) :
    (Path.ofString s).parent = ⟨0, []⟩ := by
  rw [Path.ofString_of_isFileName h]
  rfl

theorem Path.text_single (s : String) : Path.text ⟨0, [s]⟩ = s := by
  simp [Path.text, String.intercalate_singleton]

namespace FileSystem

variable {fs fs' : FileSystem} {s text : String}

/-- A text can be written under a name: it is not too long, and no directory has it. -/
def Takes (fs : FileSystem) (s : String) : Prop :=
  Text.byteLength s ≤ maxPart ∧ fs.entry? (workPlace ++ [s]) ≠ some .directory

/-- The files after a text was written under a name in the working directory. -/
def withFile (fs : FileSystem) (s text : String) : FileSystem :=
  ⟨Keyed.put (workPlace ++ [s]) (.file (.text text)) fs.entries⟩

theorem entry?_workPlace (fs : FileSystem) : fs.entry? workPlace = some .directory := rfl

theorem entry?_withFile (fs : FileSystem) (s text : String) (place : Place) :
    FileSystem.entry? (fs.withFile s text) place =
      if workPlace ++ [s] = place then some (.file (.text text)) else fs.entry? place := by
  unfold entry?
  rw [withFile, Keyed.find?_put]
  by_cases hplace : workPlace ++ [s] = place
  · subst hplace
    have hbelow : (workPlace ++ [s]).isPrefixOf workPlace = false := by
      rw [Bool.eq_false_iff, ne_eq, List.isPrefixOf_iff_prefix]
      intro h
      have hlength := h.length_le
      rw [List.length_append, List.length_singleton] at hlength
      omega
    simp [hbelow]
  · simp [hplace]

theorem takes_withFile (h : fs.Takes s) (text s' : String) :
    (fs.withFile s text).Takes s' ↔ fs.Takes s' := by
  rw [Takes, Takes, entry?_withFile]
  by_cases hs : workPlace ++ [s] = workPlace ++ [s']
  · obtain rfl : s = s' := by simpa using hs
    simp [h.1, h.2]
  · simp [hs]

/-- One step from the working directory. -/
theorem walk_workPlace (fs : FileSystem) (h : s ≠ "..") :
    fs.walk workPlace [s] =
      if maxPart < Text.byteLength s then .error .nameTooLong else .ok (workPlace ++ [s]) := by
  rw [walk, entry?_workPlace]
  simp [h, walk]

theorem locate_of_isFileName (h : IsFileName s) (fs : FileSystem) :
    fs.locate ⟨0, [s]⟩ =
      if maxPart < Text.byteLength s then .error .nameTooLong else .ok (workPlace ++ [s]) := by
  have hnull : s.toList.contains (Char.ofNat 0) = false := by simpa using h.noNull
  rw [locate, Path.text_single, hnull, if_neg Bool.false_ne_true]
  split_ifs with hpath hpart hpart
  · rfl
  · have hlimits : maxPart < maxPath := by decide
    omega
  · exact (walk_workPlace fs h.notAbove).trans (if_pos hpart)
  · exact (walk_workPlace fs h.notAbove).trans (if_neg hpart)

theorem makeDirectories_here (fs : FileSystem) : fs.makeDirectories ⟨0, []⟩ = .ok fs := rfl

theorem writeText_eq_ok_iff (h : IsFileName s) :
    fs.writeText (Path.ofString s) text = .ok fs' ↔ fs.Takes s ∧ fs' = fs.withFile s text := by
  rw [Path.ofString_of_isFileName h, writeText, locate_of_isFileName h, Takes, ← Nat.not_lt]
  by_cases hlong : maxPart < Text.byteLength s
  · simp [hlong]
  · rw [if_neg hlong]
    match hentry : fs.entry? (workPlace ++ [s]) with
    | none => simp [hlong, withFile, hentry, eq_comm]
    | some (.file _) => simp [hlong, withFile, hentry, eq_comm]
    | some .directory => simp [hentry]

theorem contents_eq_ok_iff (h : IsFileName s) {c : Contents} :
    fs.contents (Path.ofString s) = .ok c ↔
      Text.byteLength s ≤ maxPart ∧ fs.entry? (workPlace ++ [s]) = some (.file c) := by
  rw [Path.ofString_of_isFileName h, contents, find, locate_of_isFileName h, ← Nat.not_lt]
  by_cases hlong : maxPart < Text.byteLength s
  · simp [hlong]
  · rw [if_neg hlong]
    match hentry : fs.entry? (workPlace ++ [s]) with
    | none => simp [hentry]
    | some (.file _) => simp [hlong, hentry]
    | some .directory => simp [hentry]

/-! ## Any path -/

section Put

variable {target : Place} (htarget : fs.entry? target ≠ some .directory)
include htarget

/-- Where there is no directory an entry may be put, and nothing else changes. -/
theorem entry?_put (entry : Entry) (place : Place) :
    FileSystem.entry? ⟨Keyed.put target entry fs.entries⟩ place =
      if target = place then some entry else fs.entry? place := by
  unfold entry? at *
  rw [Keyed.find?_put]
  by_cases hplace : target = place
  · subst hplace
    have hbelow : target.isPrefixOf workPlace = false := by
      by_contra hprefix
      rw [if_pos (by simpa using hprefix)] at htarget
      exact htarget rfl
    simp [hbelow]
  · simp [hplace]

/-- A walk goes through directories, so it does not pass the place. -/
theorem walk_put (entry : Entry) {place : Place} {parts : List String} {found : Place}
    (h : fs.walk place parts = .ok found) :
    FileSystem.walk ⟨Keyed.put target entry fs.entries⟩ place parts = .ok found := by
  induction parts generalizing place with
  | nil => exact h
  | cons part rest ih =>
    rw [walk] at h
    split at h
    · cases h
    · cases h
    · next hentry =>
      have hne : target ≠ place := by
        rintro rfl
        exact htarget hentry
      rw [walk, entry?_put htarget, if_neg hne, hentry]
      split_ifs at h with hlong habove
      · simp only [if_neg hlong, if_pos habove]
        exact ih h
      · simp only [if_neg hlong, if_neg habove]
        exact ih h

end Put

/-- What was written to a path is there. -/
theorem contents_of_writeText {path : Path} (h : fs.writeText path text = .ok fs') :
    fs'.contents path = .ok (.text text) := by
  rw [writeText] at h
  split at h
  · cases h
  · next target hlocate =>
    have hfile : fs.entry? target ≠ some .directory ∧
        fs' = ⟨Keyed.put target (.file (.text text)) fs.entries⟩ := by
      split at h
      · cases h
      · next hentry => exact ⟨hentry, (Except.ok.inj h).symm⟩
    obtain ⟨htarget, rfl⟩ := hfile
    have hfound : FileSystem.locate ⟨Keyed.put target (.file (.text text)) fs.entries⟩ path =
        .ok target := by
      rw [locate] at hlocate ⊢
      split_ifs at hlocate ⊢
      exact walk_put htarget _ hlocate
    rw [contents, find, hfound]
    simp only [entry?_put htarget, if_true]

end FileSystem

namespace Machine

/-- The machine after a text was written under a name in the working directory. -/
def withFile (m : Machine) (s text : String) : Machine :=
  { m with files := m.files.withFile s text }

end Machine

theorem Run.writeText_eq_ok_iff {s text : String} (h : IsFileName s) {m m' : Machine} :
    Run.writeText (Path.ofString s) text m = (.ok (), m') ↔
      m.files.Takes s ∧ m' = m.withFile s text := by
  simp only [Run.writeText, bind_eq_ok_iff, get_eq_ok_iff, ofExcept_eq_ok_iff, modify_eq_ok_iff,
    Path.parent_of_isFileName h, FileSystem.makeDirectories_here, FileSystem.writeText_eq_ok_iff h]
  constructor
  · rintro ⟨_, _, ⟨rfl, rfl⟩, files, _, ⟨hfiles, rfl⟩, _, _, rfl,
      files', _, ⟨⟨htakes, rfl⟩, rfl⟩, rfl⟩
    obtain rfl := Except.ok.inj hfiles
    exact ⟨htakes, rfl⟩
  · rintro ⟨htakes, rfl⟩
    exact ⟨m, m, ⟨rfl, rfl⟩, m.files, m, ⟨rfl, rfl⟩, (), m, rfl, _, m, ⟨⟨htakes, rfl⟩, rfl⟩, rfl⟩

/-- What was written to a path is read there, if no line of it ends in a carriage return. -/
theorem Run.readText_of_writeText {path : Path} {s : String} {m m' : Machine}
    (h : Run.writeText path s m = (.ok (), m')) (hreturn : '\r' ∉ s.toList) :
    Run.readText path m' = (.ok s, m') := by
  simp only [Run.writeText, bind_eq_ok_iff, get_eq_ok_iff, ofExcept_eq_ok_iff, modify_eq_ok_iff]
    at h
  obtain ⟨_, _, ⟨rfl, rfl⟩, files, _, ⟨-, rfl⟩, _, _, rfl, files', _, ⟨hwrite, rfl⟩, rfl⟩ := h
  have hread : files'.readText path = .ok s := by
    rw [FileSystem.readText, FileSystem.contents_of_writeText hwrite]
    change Except.ok (String.ofList (Text.unifyNewlines s.toList)) = _
    rw [Text.unifyNewlines_of_not_mem hreturn, String.ofList_toList]
  simp only [Run.readText, bind_eq_ok_iff, get_eq_ok_iff, ofExcept_eq_ok_iff]
  exact ⟨_, _, ⟨rfl, rfl⟩, hread, rfl⟩

end FlowBoard
