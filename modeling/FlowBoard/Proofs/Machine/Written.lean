import FlowBoard.Proofs.Machine.Kept
import FlowBoard.Proofs.Raster

/-!
# Names that a run writes under

A run writes under names of a kind when it is put together from texts and images under such names
and from steps that touch neither files nor the rasterizer. If the names are file names, no file
changes but those in the working directory that have such a name, and the rasterizer is handed no
other name, whatever machine it is and wherever the run fails.
-/

namespace FlowBoard

variable {named : String → Prop}

/-! ## Machines -/

namespace Machine

variable {m m₁ m' : Machine}

/-- The files and the starts of the rasterizer. -/
def made (m : Machine) : FileSystem × List RasterCall := (m.files, m.calls)

/-- One machine becomes the other by texts, and by starts of the rasterizer, under names of a kind
in the working directory. -/
structure WrittenUnder (named : String → Prop) (m m' : Machine) : Prop where
  files : ∃ texts : List (String × String), (∀ t ∈ texts, named t.1) ∧
    m'.files = texts.foldl (fun files t => files.withFile t.1 t.2) m.files
  calls : ∃ calls, m'.calls = m.calls ++ calls ∧ ∀ call ∈ calls, ∃ name format config,
    named name ∧ call.command = Raster.command Raster.inputFile name format config

namespace WrittenUnder

theorem of_made_eq (h : m'.made = m.made) : m.WrittenUnder named m' where
  files := ⟨[], by simp, congrArg Prod.fst h⟩
  calls := ⟨[], (congrArg Prod.snd h).trans (List.append_nil _).symm, by simp⟩

theorem withFile {name : String} (hname : named name) (text : String) :
    m.WrittenUnder named (m.withFile name text) where
  files := ⟨[(name, text)], List.forall_mem_singleton.mpr hname, rfl⟩
  calls := ⟨[], (List.append_nil _).symm, by simp⟩

theorem of_call {name format : String} {config : Option String} {call : RasterCall}
    (hname : named name) (hmade : m'.made = (m.files, m.calls ++ [call]))
    (hcommand : call.command = Raster.command Raster.inputFile name format config) :
    m.WrittenUnder named m' where
  files := ⟨[], by simp, congrArg Prod.fst hmade⟩
  calls := ⟨[call], congrArg Prod.snd hmade,
    List.forall_mem_singleton.mpr ⟨name, format, config, hname, hcommand⟩⟩

theorem trans (h : m.WrittenUnder named m₁) (h' : m₁.WrittenUnder named m') :
    m.WrittenUnder named m' := by
  obtain ⟨⟨texts, htexts, hfiles⟩, calls, hcalls, hall⟩ := h
  obtain ⟨⟨texts', htexts', hfiles'⟩, calls', hcalls', hall'⟩ := h'
  constructor
  case files =>
    refine ⟨texts ++ texts', List.forall_mem_append.mpr ⟨htexts, htexts'⟩, ?_⟩
    rw [List.foldl_append, hfiles', hfiles]
  case calls =>
    refine ⟨calls ++ calls', ?_, List.forall_mem_append.mpr ⟨hall, hall'⟩⟩
    rw [hcalls', hcalls, List.append_assoc]

theorem mono {named' : String → Prop} (hnamed : ∀ name, named name → named' name)
    (h : m.WrittenUnder named m') : m.WrittenUnder named' m' := by
  obtain ⟨⟨texts, htexts, hfiles⟩, calls, hcalls, hall⟩ := h
  refine ⟨⟨texts, fun t ht => hnamed t.1 (htexts t ht), hfiles⟩, calls, hcalls, ?_⟩
  intro call hcall
  obtain ⟨name, format, config, hname, hcommand⟩ := hall call hcall
  exact ⟨name, format, config, hnamed name hname, hcommand⟩

/-- Elsewhere the files are as before. -/
theorem exists_of_entry?_ne (h : m.WrittenUnder named m') {place : Place}
    (hplace : m'.files.entry? place ≠ m.files.entry? place) :
    ∃ name, named name ∧ place = FileSystem.workPlace ++ [name] := by
  obtain ⟨⟨texts, htexts, hfiles⟩, -⟩ := h
  rw [hfiles] at hplace
  clear hfiles
  generalize m.files = files at hplace
  induction texts generalizing files with
  | nil => exact absurd rfl hplace
  | cons t rest ih =>
    obtain ⟨ht, hrest⟩ := List.forall_mem_cons.mp htexts
    by_cases hhere : FileSystem.workPlace ++ [t.1] = place
    · exact ⟨t.1, ht, hhere.symm⟩
    · refine ih hrest (files.withFile t.1 t.2) ?_
      rwa [FileSystem.entry?_withFile, if_neg hhere]

end WrittenUnder

end Machine

/-! ## Runs -/

namespace Run

variable {α β : Type} {r : Run α}

/-- A run that writes texts and images under names of a kind only. -/
inductive WritesUnder (named : String → Prop) : {α : Type} → Run α → Prop
  | quiet {α : Type} {r : Run α} (keeps : Keeps Machine.made r) : WritesUnder named r
  | text {name : String} (hname : named name) (text : String) :
    WritesUnder named (writeText (Path.ofString name) text)
  | image {name : String} (hname : named name) (lone : Text.StandIns) (mermaid format : String)
      (config : Option Json) (timeout : Number) :
    WritesUnder named (Raster.renderWith lone mermaid name format config timeout)
  | bind {α β : Type} {r : Run α} {f : α → Run β} (first : WritesUnder named r)
      (rest : ∀ m a m', r m = (.ok a, m') → WritesUnder named (f a)) :
    WritesUnder named (r >>= f)

namespace WritesUnder

theorem of_keeps (h : Keeps Machine.effects r) : WritesUnder named r :=
  .quiet (h.comp fun seen => (seen.1.1, seen.2))

theorem throw (e : Failure) : WritesUnder named (MonadExcept.throw e : Run α) :=
  of_keeps (Keeps.throw e)

theorem throw_bind (e : Failure) (f : α → Run β) :
    WritesUnder named ((MonadExcept.throw e : Run α) >>= f) :=
  of_keeps (Keeps.throw_bind e f)

theorem coded {name : String} (hname : named name) (lone : Text.StandIns) (text : String) :
    WritesUnder named (writeCoded lone (Path.ofString name) text) := by
  rw [writeCoded]
  cases lone.coded text with
  | ok text => exact .text hname text
  | error e => exact (WritesUnder.text hname "").bind fun _ _ _ _ => throw e

theorem ite {c : Prop} [Decidable c] {r r' : Run α} (h : c → WritesUnder named r)
    (h' : ¬c → WritesUnder named r') : WritesUnder named (if c then r else r') := by
  split_ifs with hc
  · exact h hc
  · exact h' hc

theorem forM {f : α → Run Unit} (h : ∀ a, WritesUnder named (f a)) (items : List α) :
    WritesUnder named (items.forM f) := by
  induction items with
  | nil => exact of_keeps (Keeps.pure ())
  | cons a rest ih =>
    rw [List.forM]
    exact (h a).bind fun _ _ _ _ => ih

end WritesUnder

/-- A text under a file name is written or not; nothing else happens. -/
theorem writeText_of_isFileName {name : String} (h : IsFileName name) (text : String)
    (m : Machine) :
    (writeText (Path.ofString name) text m).2 = m ∨
      (writeText (Path.ofString name) text m).2 = m.withFile name text := by
  rcases hrun : writeText (Path.ofString name) text m with ⟨e | _, m'⟩
  · have hget : (get : Run Machine) m = (.ok m, m) := rfl
    have hmake : ofExcept (m.files.makeDirectories (Path.ofString name).parent) m =
        (.ok m.files, m) := by
      rw [Path.parent_of_isFileName h]
      rfl
    have hsame : (modify fun m₁ => { m₁ with files := m.files } : Run Unit) m = (.ok (), m) := rfl
    rw [writeText, bind_of_ok hget, bind_of_ok hmake, bind_of_ok hsame] at hrun
    cases hwrite : m.files.writeText (Path.ofString name) text with
    | error fault =>
      rw [hwrite] at hrun
      exact .inl (Prod.mk.inj hrun).2.symm
    | ok files =>
      rw [hwrite] at hrun
      cases hrun
  · exact .inr ((writeText_eq_ok_iff h).mp hrun).2

/-- An image under a file name needs no directory, so the rasterizer is started on that name unless
the format is unknown, a temporary file cannot be written or the name cannot be passed on. -/
theorem renderWith_of_isFileName {name : String} (h : IsFileName name) (lone : Text.StandIns)
    (mermaid format : String) (config : Option Json) (timeout : Number) (m : Machine) :
    (Raster.renderWith lone mermaid name format config timeout m).2.made = m.made ∨
      ∃ call path, (Raster.renderWith lone mermaid name format config timeout m).2.made =
          (m.files, m.calls ++ [call]) ∧
        call.command = Raster.command Raster.inputFile name format path := by
  by_cases hformat : ImageFormat.IsName format
  · obtain ⟨format, rfl⟩ := hformat.exists_name
    obtain ⟨recorded, result, m', hmakes, hrun⟩ :=
      Raster.exists_renderWith lone mermaid name format config timeout m
    have hmade : m'.made = m.made := by rw [hmakes.eq_with_temps]; rfl
    rw [hrun]
    cases result with
    | error e => exact .inl hmade
    | ok =>
      have hmake : m'.files.makeDirectories (Path.ofString name).parent = .ok m'.files := by
        rw [Path.parent_of_isFileName h, FileSystem.makeDirectories_here]
      rw [Raster.afterwards_ok, Raster.convert_of_ok format _ timeout hmake]
      by_cases hnull : Raster.hasNull name = true
      · rw [if_pos hnull]
        exact .inl hmade
      · rw [if_neg hnull]
        let handed := config.filter (!Raster.isEmptyConfig ·)
        refine .inr ⟨Raster.callOf m' (Raster.command Raster.inputFile name format.name
          (handed.map fun _ => Raster.configFile)) timeout, _, Prod.ext ?_ ?_, rfl⟩
        · exact (Raster.files_started _ _ _).trans (congrArg Prod.fst hmade)
        · exact (Raster.calls_started _ _ _).trans
            (congrArg (· ++ _) (congrArg Prod.snd hmade))
  · exact .inl (congrArg (fun r => r.2.made) (Raster.renderWith_of_not_isName hformat config))

/-- Whatever happens in the run, the machine that it leaves was written under such names only. -/
theorem WritesUnder.writtenUnder (hnamed : ∀ name, named name → IsFileName name)
    (h : WritesUnder named r) (m : Machine) : m.WrittenUnder named (r m).2 := by
  induction h generalizing m with
  | quiet keeps => exact .of_made_eq (keeps m)
  | @text name hname text =>
    rcases writeText_of_isFileName (hnamed name hname) text m with hsame | hwritten
    · exact .of_made_eq (congrArg Machine.made hsame)
    · rw [hwritten]
      exact .withFile hname text
  | @image name hname lone mermaid format config timeout =>
    rcases renderWith_of_isFileName (hnamed name hname) lone mermaid format config timeout m with
      hsame | ⟨call, path, hmade, hcommand⟩
    · exact .of_made_eq hsame
    · exact .of_call hname hmade hcommand
  | @bind α β r f _ _ ihfirst ihrest =>
    have hfirst := ihfirst m
    rcases hr : r m with ⟨e | a, m₁⟩
    · rw [hr] at hfirst
      rwa [bind_of_error hr]
    · rw [hr] at hfirst
      rw [bind_of_ok hr]
      exact hfirst.trans (ihrest m a m₁ hr m₁)

end Run

end FlowBoard
