import FlowBoard.Proofs.Ingestion.Exchange
import FlowBoard.Proofs.Source.FileKey

/-!
# Keys found by a search

An address names the key of its leftmost occurrence: a marker, then letters and digits up to the end
of the address or to a delimiter. A marker without such a key after it is passed over. A text that
does not mention the service is a key as a whole or no key at all.
-/

namespace FlowBoard.FileKey

/-- An ASCII letter or digit. -/
def IsLetterOrDigit (c : Char) : Prop :=
  ('A' ≤ c ∧ c ≤ 'Z') ∨ ('a' ≤ c ∧ c ≤ 'z') ∨ ('0' ≤ c ∧ c ≤ '9')

/-- The text starts with a key, which ends with the text or right before a delimiter. -/
structure BeginsWith (text key : List Char) : Prop where
  notEmpty : key ≠ []
  letters : ∀ c ∈ key, IsLetterOrDigit c
  ends : ∃ after, text = key ++ after ∧ ∀ c ∈ after.head?, c = '/' ∨ c = '?' ∨ c = '#'

/-- The text starts with a marker and a key. -/
def BeginsMarked (text key : List Char) : Prop :=
  ∃ marker ∈ ["/board/", "/file/", "/design/", "/proto/"], ∃ rest,
    text = marker.toList ++ rest ∧ BeginsWith rest key

/-- A marker and a key come right after the first part of the text. -/
def Occurs (text before key : List Char) : Prop :=
  ∃ rest, text = before ++ rest ∧ BeginsMarked rest key

/-- No marker with a key comes before the one of this key. -/
def IsLeftmost (text key : List Char) : Prop :=
  ∃ before, Occurs text before key ∧
    ∀ before' key', Occurs text before' key' → before.length ≤ before'.length

theorem isKeyChar_iff {c : Char} : isKeyChar c = true ↔ IsLetterOrDigit c := by
  change (decide ('A' ≤ c ∧ c ≤ 'Z') || decide ('a' ≤ c) && decide (c ≤ 'z') ||
    decide ('0' ≤ c) && decide (c ≤ '9')) = true ↔ _
  simp only [Bool.or_eq_true, Bool.and_eq_true, decide_eq_true_eq, IsLetterOrDigit, or_assoc]

theorem not_isKeyChar_of_delimiter {c : Char} (h : c = '/' ∨ c = '?' ∨ c = '#') :
    isKeyChar c = false := by
  rcases h with rfl | rfl | rfl <;> decide

/-! ## A key at the front -/

theorem keyAt?_eq_some_iff {text key : List Char} :
    keyAt? text = some key ↔ BeginsWith text key := by
  constructor
  · intro h
    have hletters : ∀ c ∈ key, IsLetterOrDigit c := fun c hc =>
      isKeyChar_iff.mp (isKeyChar_of_keyAt? h c hc)
    have hsplit := List.takeWhile_append_dropWhile (p := isKeyChar) (l := text)
    unfold keyAt? at h
    dsimp only at h
    split_ifs at h with hempty
    rw [List.isEmpty_iff] at hempty
    split at h
    · rename_i hrest
      obtain rfl := Option.some.inj h
      exact ⟨hempty, hletters, [], by rw [← hrest, hsplit], by simp⟩
    · rename_i c after hrest
      split_ifs at h with hdelimiter
      obtain rfl := Option.some.inj h
      refine ⟨hempty, hletters, c :: after, by rw [← hrest, hsplit], ?_⟩
      simpa [or_assoc] using hdelimiter
  · rintro ⟨hne, hletters, after, rfl, hends⟩
    -- The run cannot go on behind the key, since no delimiter is a letter or a digit.
    have hstop : after.takeWhile isKeyChar = [] ∧ after.dropWhile isKeyChar = after := by
      cases after with
      | nil => exact ⟨rfl, rfl⟩
      | cons c rest =>
        have hc := not_isKeyChar_of_delimiter (hends c rfl)
        exact ⟨List.takeWhile_cons_of_neg (by simp [hc]),
          List.dropWhile_cons_of_neg (by simp [hc])⟩
    have hkey : ∀ c ∈ key, isKeyChar c = true := fun c hc => isKeyChar_iff.mpr (hletters c hc)
    rw [keyAt?, List.takeWhile_append_of_pos hkey, List.dropWhile_append_of_pos hkey, hstop.1,
      hstop.2, List.append_nil, if_neg (by simpa using hne)]
    cases after with
    | nil => rfl
    | cons c rest => exact if_pos (by simpa [or_assoc] using hends c rfl)

/-- No marker starts another one. -/
theorem eq_of_markers_prefix {marker marker' text : List Char} (h : marker ∈ markers)
    (h' : marker' ∈ markers) (hstart : marker <+: text) (hstart' : marker' <+: text) :
    marker = marker' := by
  have hfree : ∀ a ∈ markers, ∀ b ∈ markers, a.isPrefixOf b = true → a = b := by decide
  rcases List.prefix_or_prefix_of_prefix hstart hstart' with hfirst | hsecond
  · exact hfree marker h marker' h' (List.isPrefixOf_iff_prefix.mpr hfirst)
  · exact (hfree marker' h' marker h (List.isPrefixOf_iff_prefix.mpr hsecond)).symm

theorem keyAfterMarker?_eq_some_iff {text key : List Char} :
    keyAfterMarker? text = some key ↔ BeginsMarked text key := by
  constructor
  · intro h
    obtain ⟨marker, hmarker, hkey⟩ := List.exists_of_findSome?_eq_some h
    obtain ⟨name, hname, rfl⟩ := List.mem_map.mp hmarker
    split_ifs at hkey with hstart
    obtain ⟨rest, rfl⟩ := List.isPrefixOf_iff_prefix.mp hstart
    rw [List.drop_left] at hkey
    exact ⟨name, hname, rest, rfl, keyAt?_eq_some_iff.mp hkey⟩
  · rintro ⟨name, hname, rest, rfl, hbegins⟩
    have hmem : name.toList ∈ markers := List.mem_map_of_mem hname
    have hread : keyAt? rest = some key := keyAt?_eq_some_iff.mpr hbegins
    have hfound : ∃ found, keyAfterMarker? (name.toList ++ rest) = some found := by
      rw [← Option.isSome_iff_exists, keyAfterMarker?, List.findSome?_isSome_iff]
      exact ⟨name.toList, hmem, by simp [hread]⟩
    obtain ⟨found, hfound⟩ := hfound
    obtain ⟨marker, hmarker, hkey⟩ := List.exists_of_findSome?_eq_some hfound
    split_ifs at hkey with hstart
    -- The marker that the search takes is the one that stands there.
    obtain rfl : marker = name.toList := eq_of_markers_prefix hmarker hmem
      (List.isPrefixOf_iff_prefix.mp hstart) (List.prefix_append _ _)
    rw [List.drop_left, hread] at hkey
    rw [hfound, hkey]

/-! ## The leftmost key -/

theorem not_beginsMarked_nil {key : List Char} : ¬BeginsMarked [] key := by
  intro h
  exact absurd (keyAfterMarker?_eq_some_iff.mpr h) (by simp [keyAfterMarker?, markers])

theorem occurs_nil {text key : List Char} : Occurs text [] key ↔ BeginsMarked text key := by
  constructor
  · rintro ⟨rest, rfl, hbegins⟩
    exact hbegins
  · exact fun h => ⟨text, rfl, h⟩

theorem occurs_cons {c d : Char} {text before key : List Char} :
    Occurs (c :: text) (d :: before) key ↔ c = d ∧ Occurs text before key := by
  constructor
  · rintro ⟨rest, htext, hbegins⟩
    obtain ⟨rfl, rfl⟩ := List.cons.inj htext
    exact ⟨rfl, rest, rfl, hbegins⟩
  · rintro ⟨rfl, rest, rfl, hbegins⟩
    exact ⟨rest, rfl, hbegins⟩

theorem not_occurs_nil {before key : List Char} : ¬Occurs [] before key := by
  rintro ⟨rest, htext, hbegins⟩
  obtain ⟨-, rfl⟩ := List.append_eq_nil_iff.mp htext.symm
  exact not_beginsMarked_nil hbegins

/-- Where no key is marked at the front, the occurrences are those of the rest, one place on. -/
theorem occurs_of_not_marked {c : Char} {text before key : List Char}
    (h : keyAfterMarker? (c :: text) = none) :
    Occurs (c :: text) before key ↔ ∃ before', before = c :: before' ∧ Occurs text before' key := by
  constructor
  · intro hoccurs
    cases before with
    | nil =>
      rw [keyAfterMarker?_eq_some_iff.mpr (occurs_nil.mp hoccurs)] at h
      cases h
    | cons d before' =>
      obtain ⟨rfl, hoccurs'⟩ := occurs_cons.mp hoccurs
      exact ⟨before', rfl, hoccurs'⟩
  · rintro ⟨before', rfl, hoccurs'⟩
    exact occurs_cons.mpr ⟨rfl, hoccurs'⟩

theorem keyInAddress?_eq_none_iff {text : List Char} :
    keyInAddress? text = none ↔ ∀ before key, ¬Occurs text before key := by
  induction text with
  | nil => exact iff_of_true rfl fun _ _ => not_occurs_nil
  | cons c rest ih =>
    rw [keyInAddress?]
    cases hhere : keyAfterMarker? (c :: rest) with
    | some found =>
      refine iff_of_false (by simp) fun h => h [] found ?_
      exact occurs_nil.mpr (keyAfterMarker?_eq_some_iff.mp hhere)
    | none =>
      simp only [occurs_of_not_marked hhere, not_exists, not_and, ih]
      exact ⟨fun h _ key before _ => h before key,
        fun h before key => h (c :: before) key before rfl⟩

theorem keyInAddress?_eq_some_iff {text key : List Char} :
    keyInAddress? text = some key ↔ IsLeftmost text key := by
  induction text with
  | nil => exact iff_of_false (by simp [keyInAddress?]) fun ⟨_, h, _⟩ => not_occurs_nil h
  | cons c rest ih =>
    rw [keyInAddress?]
    cases hhere : keyAfterMarker? (c :: rest) with
    | some found =>
      have hfound : Occurs (c :: rest) [] found :=
        occurs_nil.mpr (keyAfterMarker?_eq_some_iff.mp hhere)
      constructor
      · intro h
        obtain rfl := Option.some.inj h
        exact ⟨[], hfound, fun _ _ _ => Nat.zero_le _⟩
      · rintro ⟨before, hoccurs, hfirst⟩
        obtain rfl : before = [] :=
          List.length_eq_zero_iff.mp (Nat.le_zero.mp (hfirst [] found hfound))
        exact hhere.symm.trans (keyAfterMarker?_eq_some_iff.mpr (occurs_nil.mp hoccurs))
    | none =>
      refine ih.trans ⟨?_, ?_⟩
      · rintro ⟨before, hoccurs, hfirst⟩
        refine ⟨c :: before, (occurs_of_not_marked hhere).mpr ⟨before, rfl, hoccurs⟩, ?_⟩
        intro before' key' h
        obtain ⟨before'', rfl, h'⟩ := (occurs_of_not_marked hhere).mp h
        exact Nat.succ_le_succ (hfirst before'' key' h')
      · rintro ⟨before, hoccurs, hfirst⟩
        obtain ⟨before, rfl, hoccurs'⟩ := (occurs_of_not_marked hhere).mp hoccurs
        refine ⟨before, hoccurs', fun before' key' h => ?_⟩
        have hle := hfirst (c :: before') key' ((occurs_of_not_marked hhere).mpr ⟨before', rfl, h⟩)
        exact Nat.le_of_succ_le_succ hle

/-! ## What an input names -/

theorem ne_nil_of_isLeftmost {text key : List Char} (h : IsLeftmost text key) : key ≠ [] := by
  obtain ⟨_, ⟨_, _, _, _, _, _, hbegins⟩, _⟩ := h
  exact hbegins.notEmpty

theorem extract_of_mentions {input key : String}
    (h : serviceName <:+: Text.trimChars input.toList) :
    extract input = .ok key ↔ IsLeftmost (Text.trimChars input.toList) key.toList :=
  extract_eq_ok_iff.trans ((ofChars_of_mentions h).trans keyInAddress?_eq_some_iff)

theorem extract_of_not_mentions {input key : String}
    (h : ¬serviceName <:+: Text.trimChars input.toList) :
    extract input = .ok key ↔ key.toList = Text.trimChars input.toList ∧
      6 ≤ (Text.trimChars input.toList).length ∧
        ∀ c ∈ Text.trimChars input.toList, IsLetterOrDigit c := by
  simp only [extract_eq_ok_iff, ofChars_of_not_mentions h, isKeyChar_iff, minLength]

theorem exists_extract_iff_occurs {input : String}
    (h : serviceName <:+: Text.trimChars input.toList) :
    (∃ key, extract input = .ok key) ↔
      ∃ before key, Occurs (Text.trimChars input.toList) before key := by
  constructor
  · rintro ⟨key, hkey⟩
    obtain ⟨before, hoccurs, -⟩ := (extract_of_mentions h).mp hkey
    exact ⟨before, key.toList, hoccurs⟩
  · rintro ⟨before, key, hoccurs⟩
    cases hread : keyInAddress? (Text.trimChars input.toList) with
    | none => exact absurd hoccurs (keyInAddress?_eq_none_iff.mp hread before key)
    | some found =>
      refine ⟨String.ofList found, (extract_of_mentions h).mpr ?_⟩
      rw [String.toList_ofList]
      exact keyInAddress?_eq_some_iff.mp hread

theorem letters_of_extract {input key : String} (h : extract input = .ok key) :
    ∀ c ∈ key.toList, IsLetterOrDigit c := fun c hc =>
  isKeyChar_iff.mp (isKeyChar_of_extract h c hc)

theorem ne_empty_of_extract {input key : String} (h : extract input = .ok key) : key ≠ "" := by
  rintro rfl
  by_cases hservice : serviceName <:+: Text.trimChars input.toList
  · exact ne_nil_of_isLeftmost ((extract_of_mentions hservice).mp h) rfl
  · obtain ⟨htext, hlength, -⟩ := (extract_of_not_mentions hservice).mp h
    rw [← htext] at hlength
    exact absurd hlength (by decide)

/-- The key of an input whose trimmed form is given: it is read, or the source fails. An address
names its leftmost key, another text only itself. -/
structure ReadsExactly (input : String) (text : List Char) : Prop where
  outcome : (∃ fault, extract input = .error fault ∧ fault.failure.kind = .source) ∨
    ∃ key, extract input = .ok key ∧ key ≠ "" ∧ ∀ c ∈ key.toList, IsLetterOrDigit c
  address : "figma.com".toList <:+: text →
    ((∃ key, extract input = .ok key) ↔ ∃ before key, Occurs text before key) ∧
      ∀ key, extract input = .ok key ↔ IsLeftmost text key.toList
  bare : ¬"figma.com".toList <:+: text →
    ∀ key, extract input = .ok key ↔
      key.toList = text ∧ 6 ≤ text.length ∧ ∀ c ∈ text, IsLetterOrDigit c

theorem readsExactly (input : String) : ReadsExactly input (Text.trimChars input.toList) where
  outcome := by
    cases hread : extract input with
    | error fault => exact .inl ⟨fault, rfl, rfl⟩
    | ok key =>
      exact .inr ⟨key, rfl, ne_empty_of_extract hread, letters_of_extract hread⟩
  address := fun h => ⟨exists_extract_iff_occurs h, fun _ => extract_of_mentions h⟩
  bare := fun h _ => extract_of_not_mentions h

end FlowBoard.FileKey

namespace FlowBoard.Source

open FileKey (IsLetterOrDigit ReadsExactly extract)

/-- A request for the file that an input names. -/
def AsksFor (address input : String) (r : Http.Request) : Prop :=
  ∃ key, extract input = .ok key ∧ key ≠ "" ∧ (∀ c ∈ key.toList, IsLetterOrDigit c) ∧
    r.url = dropSlashes address ++ "/files/" ++ key

theorem asksFor_boardRequest {input key : String} (h : extract input = .ok key)
    (address token : String) : AsksFor address input (boardRequest address key token) :=
  ⟨key, h, FileKey.ne_empty_of_extract h, FileKey.letters_of_extract h, rfl⟩

theorem asksFor_ingestTree (address : String) (request : SourceRequest) (m : Machine) :
    ∃ sent, (ingestTree address request m).2.requests = m.requests ++ sent ∧ sent.length ≤ 1 ∧
      ∀ r ∈ sent, AsksFor address request.input r := by
  cases hkey : extract request.input with
  | error fault =>
    exact ⟨[], by rw [ingestTree_of_fault hkey, List.append_nil], Nat.zero_le 1, by simp⟩
  | ok key =>
    cases hcheck : (boardRequest address key request.token).check with
    | error e =>
      exact ⟨[], by rw [ingestTree_of_unsendable hkey hcheck, List.append_nil], Nat.zero_le 1,
        by simp⟩
    | ok _ =>
      refine ⟨[boardRequest address key request.token], ?_, le_rfl, ?_⟩
      · rw [ingestTree_of_sent hkey hcheck]
        rfl
      · exact List.forall_mem_singleton.mpr (asksFor_boardRequest hkey address request.token)

/-- The key of an input is exact: of an address it is the one of the leftmost marker that a key
follows, of another text the whole text, and there is none only if that is missing. So the board
service is asked once at most, and for the file of that key. -/
theorem keys_exact_and_safe (input : String) :
    ReadsExactly input (Text.trimChars input.toList) ∧
      ∀ (address token : String) (format : Option String) (m : Machine), ∃ sent,
        (ingestTree address ⟨input, token, format⟩ m).2.requests = m.requests ++ sent ∧
          sent.length ≤ 1 ∧ ∀ r ∈ sent, AsksFor address input r :=
  ⟨FileKey.readsExactly input, fun address token format m =>
    asksFor_ingestTree address ⟨input, token, format⟩ m⟩

/-- Markers that no whole key follows are passed over. -/
example :
    FileKey.extract " https://figma.com/file/a_b/design/x\n/board//proto/Key9?/file/k#\t" =
      .ok "Key9" := by
  decide

end FlowBoard.Source
