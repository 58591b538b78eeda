import FlowBoard.Canvas
import FlowBoard.Proofs.Markup.Tokens

/-!
# Markup with the same lines

Texts with the same lines are read as the same markup: an element, its attributes and its characters
do not depend on where they stand, and in characters the whole of a line end is one line feed. So a
list of canvases is the same as well.
-/

namespace FlowBoard.Markup

open Text (SameLines InStep isLineEnd isLineEnd_eq_false_iff isLineEnd_of_any eq_of_isLineEnd
  afterLineEnd afterLineEnd_of_ne length_afterLineEnd exists_of_map_eq_ok)

variable {cs ds rest : List Char} {c : Char} {start start' : Nat}

/-! ## Tags without places -/

theorem Reference.resolve_eq_ok {start own start' own' : Nat} {ref : Reference}
    (h : ref.resolve start own = .ok c) : ref.resolve start' own' = .ok c := by
  cases ref with
  | entity name =>
    simp only [resolve] at h ⊢
    cases hname : entities.lookup name with
    | some d => rwa [hname] at h
    | none =>
      rw [hname] at h
      cases h
  | character n =>
    rw [resolve] at h ⊢
    by_cases hvalid : n.isValidChar
    · rw [dif_pos hvalid] at h ⊢
      by_cases hchar : isMarkupChar (Char.ofNatAux n hvalid) = true
      · exact (if_pos hchar).trans ((if_pos hchar).symm.trans h)
      · cases (if_neg hchar).symm.trans h
    · rw [dif_neg hvalid] at h
      cases h

theorem attributeText_eq_ok {v v' : List Piece} (hsame : List.Forall₂ Piece.Same v v')
    (h : attributeText start v = .ok cs) : attributeText start' v' = .ok cs := by
  induction hsame generalizing cs with
  | nil => exact h
  | cons hpiece _ ih =>
    cases hpiece with
    | char c =>
      rw [attributeText] at h ⊢
      obtain ⟨text, htext, rfl⟩ := exists_of_map_eq_ok h
      rw [ih htext]
      rfl
    | reference ref left left' =>
      rw [attributeText] at h ⊢
      cases href : ref.resolve start left with
      | error e =>
        rw [href] at h
        cases h
      | ok c =>
        rw [href] at h
        rw [Reference.resolve_eq_ok href]
        obtain ⟨text, htext, rfl⟩ := exists_of_map_eq_ok h
        simp only [ih htext]
        rfl

theorem readAttributes_eq_ok {raw raw' : List RawAttribute} {scope : Scope} {seen : List QName}
    {r : Scope × List (QName × String)} (hsame : List.Forall₂ RawAttribute.Same raw raw')
    (h : readAttributes start scope seen raw = .ok r) :
    readAttributes start' scope seen raw' = .ok r := by
  induction hsame generalizing scope seen r with
  | nil => exact h
  | @cons a a' raw raw' ha _ ih =>
    rw [readAttributes] at h ⊢
    rw [← ha.name]
    by_cases hseen : seen.contains a.name = true
    · rw [if_pos hseen] at h
      cases h
    rw [if_neg hseen] at h ⊢
    cases htext : attributeText start a.value with
    | error e =>
      rw [htext] at h
      cases h
    | ok text =>
      rw [htext] at h
      rw [attributeText_eq_ok ha.value htext]
      simp only at h ⊢
      cases hbinds : a.name.binds? with
      | some pre =>
        simp only [hbinds] at h ⊢
        cases hfault : bindFault? pre (String.ofList text) with
        | some fault =>
          rw [hfault] at h
          cases h
        | none =>
          rw [hfault] at h
          exact ih h
      | none =>
        simp only [hbinds] at h ⊢
        obtain ⟨values, hvalues, rfl⟩ := exists_of_map_eq_ok h
        rw [ih hvalues]
        rfl

theorem Scope.space_eq_ok {scope : Scope} {pre space : String}
    (h : scope.space start pre = .ok space) : scope.space start' pre = .ok space := by
  rw [Scope.space] at h ⊢
  cases hspace : scope.lookup pre with
  | some found => rwa [hspace] at h
  | none =>
    rw [hspace] at h
    cases h

theorem nameAttributes_eq_ok {scope : Scope} {seen : List Name}
    {values : List (QName × String)} {named : List (Name × String)}
    (h : nameAttributes start scope seen values = .ok named) :
    nameAttributes start' scope seen values = .ok named := by
  induction values generalizing seen named with
  | nil => exact h
  | cons value rest ih =>
    obtain ⟨q, value⟩ := value
    rw [nameAttributes] at h ⊢
    cases hpre : q.pre with
    | none =>
      simp only [hpre] at h ⊢
      obtain ⟨more, hmore, rfl⟩ := exists_of_map_eq_ok h
      rw [ih hmore]
      rfl
    | some pre =>
      simp only [hpre] at h ⊢
      cases hspace : scope.space start pre with
      | error e =>
        rw [hspace] at h
        cases h
      | ok space =>
        rw [hspace] at h
        rw [Scope.space_eq_ok hspace]
        simp only at h ⊢
        by_cases hseen : seen.contains ⟨space, q.base⟩ = true
        · rw [if_pos hseen] at h
          cases h
        · rw [if_neg hseen] at h ⊢
          obtain ⟨more, hmore, rfl⟩ := exists_of_map_eq_ok h
          rw [ih hmore]
          rfl

theorem elementName_eq_ok {scope : Scope} {q : QName} {name : Name}
    (h : elementName start scope q = .ok name) : elementName start' scope q = .ok name := by
  rw [elementName] at h ⊢
  cases hpre : q.pre with
  | none => rwa [hpre] at h
  | some pre =>
    simp only [hpre] at h ⊢
    obtain ⟨space, hspace, rfl⟩ := exists_of_map_eq_ok h
    rw [Scope.space_eq_ok hspace]
    rfl

/-- An element inside another does not depend on where its tag stands. -/
theorem Frame.inside_eq_ok {frame inner : Frame} {q : QName} {raw raw' : List RawAttribute}
    (hsame : List.Forall₂ RawAttribute.Same raw raw') (h : frame.inside start q raw = .ok inner) :
    frame.inside start' q raw' = .ok inner := by
  rw [inside] at h ⊢
  cases hread : readAttributes start frame.scope [] raw with
  | error e =>
    rw [hread] at h
    cases h
  | ok r =>
    rw [hread] at h
    rw [readAttributes_eq_ok hsame hread]
    simp only [bind, Except.bind] at h ⊢
    cases hnamed : nameAttributes start r.1 [] r.2 with
    | error e =>
      simp only [hnamed] at h
      cases h
    | ok attributes =>
      simp only [hnamed, nameAttributes_eq_ok hnamed] at h ⊢
      cases hname : elementName start r.1 q with
      | error e =>
        simp only [hname] at h
        cases h
      | ok name =>
        simp only [hname, elementName_eq_ok hname] at h ⊢
        exact h

/-! ## Characters and what follows the outermost element -/

theorem characterSection_lineEnd (hc : isLineEnd c = true) (rest : List Char) :
    characterSection (c :: rest) =
      (characterSection (afterLineEnd (c :: rest))).map fun r => ('\n' :: r.1, r.2) := by
  rcases eq_of_isLineEnd hc with rfl | rfl
  · rfl
  · by_cases hfeed : rest.head? = some '\n'
    · obtain ⟨tail, rfl⟩ := List.head?_eq_some_iff.mp hfeed
      rfl
    · rw [afterLineEnd_of_ne hfeed, characterSection]
      · rfl
      · exact fun _ hmark => absurd hmark (by decide)
      · rintro _ - rfl
        exact hfeed rfl

theorem exists_of_take_two {a b : Char} (h : cs.take 2 = [a, b]) :
    ∃ tail, cs = a :: b :: tail := by
  match cs with
  | [] => cases h
  | [_] => cases h
  | x :: y :: tail =>
    obtain ⟨rfl, hy⟩ := List.cons.inj h
    obtain ⟨rfl, -⟩ := List.cons.inj hy
    exact ⟨tail, rfl⟩

theorem take_two_iff (h : SameLines cs ds) {a b : Char} (ha : isLineEnd a = false)
    (hb : isLineEnd b = false) : cs.take 2 = [a, b] ↔ ds.take 2 = [a, b] := by
  have himp : ∀ {cs ds}, SameLines cs ds → cs.take 2 = [a, b] → ds.take 2 = [a, b] := by
    intro cs ds h htake
    obtain ⟨tail, rfl⟩ := exists_of_take_two htake
    obtain ⟨ds₁, rfl, h₁⟩ := h.of_cons ha
    obtain ⟨tail', rfl, -⟩ := h₁.of_cons hb
    rfl
  exact ⟨himp h, himp h.symm⟩

theorem characterSection_cons (hc : isLineEnd c = false)
    (h : c = ']' → cs.take 2 ≠ [']', '>']) :
    characterSection (c :: cs) =
      if isMarkupChar c then (characterSection cs).map fun r => (c :: r.1, r.2)
      else .error ⟨.invalidToken, cs.length + 1⟩ := by
  have hreturn : c ≠ '\r' := (isLineEnd_eq_false_iff.mp hc).2
  rw [characterSection]
  · rw [if_neg hreturn]
  · rintro rest rfl rfl
    exact h rfl rfl
  · exact fun _ hc' => absurd hc' hreturn

theorem characterSection_inStep (h : SameLines cs ds) :
    InStep Eq ds.length (characterSection cs) (characterSection ds) := by
  induction cs using Text.induction_lines generalizing ds with
  | nil => exact .error _
  | lineEnd c cs hc ih =>
    obtain ⟨d, ds', rfl, hd, hrest⟩ := h.of_lineEnd hc
    rw [characterSection_lineEnd hc, characterSection_lineEnd hd]
    refine InStep.mono ((ih hrest).map ?_ (fun _ => rfl) fun _ => rfl)
      (Nat.le_succ_of_le (length_afterLineEnd d ds'))
    rintro _ _ _ _ rfl
    rfl
  | cons c cs hc ih =>
    obtain ⟨ds', rfl, hrest⟩ := h.of_cons hc
    by_cases hend : c = ']' ∧ cs.take 2 = [']', '>']
    · obtain ⟨rfl, htake⟩ := hend
      obtain ⟨tail, rfl⟩ := exists_of_take_two htake
      obtain ⟨ds₁, rfl, h₁⟩ := hrest.of_cons rfl
      obtain ⟨tail', rfl, htail⟩ := h₁.of_cons rfl
      refine .ok rfl htail ?_
      simp only [List.length_cons]
      omega
    · have hopen : c = ']' → cs.take 2 ≠ [']', '>'] := fun h h' => hend ⟨h, h'⟩
      have hopen' : c = ']' → ds'.take 2 ≠ [']', '>'] := fun h =>
        (take_two_iff hrest rfl rfl).not.mp (hopen h)
      rw [characterSection_cons hc hopen, characterSection_cons hc hopen']
      split_ifs with hchar
      · refine InStep.mono ((ih hrest).map ?_ (fun _ => rfl) fun _ => rfl) (Nat.le_succ _)
        rintro _ _ _ _ rfl
        rfl
      · exact .error _

/-- What may follow the outermost element: nothing, a comment or an instruction, and more. -/
theorem readEpilog_eq_ok_iff {fuel : Nat} :
    readEpilog (fuel + 1) cs = .ok () ↔ skipSpace cs = [] ∨
      (∃ rest t after, skipSpace cs = '<' :: '!' :: '-' :: rest ∧ comment rest = .ok (t, after) ∧
        readEpilog fuel after = .ok ()) ∨
      ∃ rest after, skipSpace cs = '<' :: '?' :: rest ∧ instruction rest = .ok (.skipped, after) ∧
        readEpilog fuel after = .ok () := by
  rw [readEpilog]
  constructor
  · intro h
    split at h
    · next hskip => exact .inl hskip
    · next rest hskip =>
      split at h
      · next hhyphen =>
        obtain ⟨rest, rfl⟩ := List.head?_eq_some_iff.mp (by simpa using hhyphen)
        split at h
        · cases h
        · next t after hcomment => exact .inr (.inl ⟨rest, t, after, hskip, hcomment, h⟩)
      · cases h
    · next rest hskip =>
      split at h
      · cases h
      · next after hinstruction => exact .inr (.inr ⟨rest, after, hskip, hinstruction, h⟩)
      · cases h
    · split at h
      · cases h
      · split at h
        · cases h
        · cases h
    · cases h
  · rintro (hskip | ⟨rest, t, after, hskip, hcomment, h⟩ | ⟨rest, after, hskip, hinstruction, h⟩)
    · rw [hskip]
    · rw [hskip]
      simp only [List.head?_cons, List.drop_succ_cons, List.drop_zero, hcomment]
      exact h
    · rw [hskip]
      simp only [hinstruction]
      exact h

theorem readEpilog_eq_ok {fuel fuel' : Nat} (h : SameLines cs ds) (hfuel : cs.length < fuel)
    (hfuel' : ds.length < fuel') (hread : readEpilog fuel cs = .ok ()) :
    readEpilog fuel' ds = .ok () := by
  induction fuel generalizing fuel' cs ds with
  | zero => exact absurd hfuel (Nat.not_lt_zero _)
  | succ fuel ih =>
    obtain ⟨fuel', rfl⟩ := Nat.exists_eq_succ_of_ne_zero (Nat.ne_zero_of_lt hfuel')
    have hspace := sameLines_skipSpace h
    have hcs := length_skipSpace_le cs
    have hds := length_skipSpace_le ds
    rw [readEpilog_eq_ok_iff] at hread ⊢
    rcases hread with hskip | ⟨rest, t, after, hskip, hcomment, hmore⟩ |
      ⟨rest, after, hskip, hinstruction, hmore⟩
    · rw [hskip] at hspace
      exact .inl hspace.eq_nil
    · have hlength := (comment_inStep (.refl rest)).length_lt hcomment
      rw [hskip] at hspace hcs
      obtain ⟨rest', hskip', hrest⟩ := SameLines.of_append
        (show SameLines (['<', '!', '-'] ++ rest) _ from hspace) (isLineEnd_of_any rfl)
      obtain ⟨t', after', hcomment', -, hafter, hlength'⟩ := comment_inStep hrest t after hcomment
      rw [hskip'] at hds
      simp only [List.length_cons, List.length_append, List.length_nil] at hcs hds
      exact .inr (.inl ⟨rest', t', after', hskip', hcomment',
        ih hafter (by omega) (by omega) hmore⟩)
    · have hlength := (instruction_inStep (.refl rest)).length_lt hinstruction
      rw [hskip] at hspace hcs
      obtain ⟨rest', hskip', hrest⟩ := SameLines.of_append
        (show SameLines (['<', '?'] ++ rest) _ from hspace) (isLineEnd_of_any rfl)
      obtain ⟨t', after', hinstruction', hsame, hafter, hlength'⟩ :=
        instruction_inStep hrest .skipped after hinstruction
      cases hsame
      rw [hskip'] at hds
      simp only [List.length_cons, List.length_append, List.length_nil] at hcs hds
      exact .inr (.inr ⟨rest', after', hskip', hinstruction',
        ih hafter (by omega) (by omega) hmore⟩)

/-! ## Content -/

theorem readContent_lineEnd (hc : isLineEnd c = true) (fuel : Nat) (frame : Frame)
    (outer : List Frame) (rest : List Char) :
    readContent (fuel + 1) frame outer (c :: rest) =
      readContent fuel (frame.addChars ['\n']) outer (afterLineEnd (c :: rest)) := by
  rcases eq_of_isLineEnd hc with rfl | rfl
  · rfl
  · by_cases hfeed : rest.head? = some '\n'
    · obtain ⟨tail, rfl⟩ := List.head?_eq_some_iff.mp hfeed
      rfl
    · rw [afterLineEnd_of_ne hfeed, readContent]
      simp [hfeed]

section

variable {fuel fuel' : Nat} {frame : Frame} {outer : List Frame} {m : Markup}

/-- With this much fuel, content with the same lines is read as the same markup. -/
def ReadsAlike (fuel : Nat) : Prop :=
  ∀ {cs ds : List Char} {fuel' : Nat} {frame : Frame} {outer : List Frame} {m : Markup},
    SameLines cs ds → cs.length < fuel → ds.length < fuel' →
      readContent fuel frame outer cs = .ok m → readContent fuel' frame outer ds = .ok m

theorem readContent_tag (ih : ReadsAlike fuel) (h : SameLines cs ds) (hfuel : cs.length < fuel)
    (hfuel' : ds.length < fuel') (hread : readContent (fuel + 1) frame outer ('<' :: cs) = .ok m) :
    readContent (fuel' + 1) frame outer ('<' :: ds) = .ok m := by
  rw [readContent, if_pos rfl] at hread ⊢
  cases htoken : token cs with
  | error e =>
    rw [htoken] at hread
    cases hread
  | ok r =>
    obtain ⟨t, after⟩ := r
    have hlength := (token_inStep (.refl cs)).length_lt htoken
    obtain ⟨t', after', htoken', hsame, hafter, hlength'⟩ := token_inStep h t after htoken
    rw [htoken] at hread
    rw [htoken']
    cases t with
    | skipped =>
      cases hsame
      exact ih hafter (by omega) (by omega) hread
    | declaration => cases hread
    | characterSection =>
      cases hsame
      simp only at hread ⊢
      cases hsection : characterSection after with
      | error e =>
        rw [hsection] at hread
        cases hread
      | ok r =>
        have hshort := (characterSection_inStep (.refl after)).length_lt hsection
        obtain ⟨_, rest', hsection', rfl, hrest, hshort'⟩ :=
          characterSection_inStep hafter r.1 r.2 hsection
        rw [hsection] at hread
        rw [hsection']
        exact ih hrest (by omega) (by omega) hread
    | opening q raw empty =>
      obtain ⟨raw', rfl, hraw⟩ := hsame.opening_inv
      simp only at hread ⊢
      cases hinside : frame.inside (cs.length + 1) q raw with
      | error e =>
        rw [hinside] at hread
        cases hread
      | ok inner =>
        rw [hinside] at hread
        rw [Frame.inside_eq_ok hraw hinside]
        simp only at hread ⊢
        by_cases hempty : empty = true
        · rw [if_pos hempty] at hread ⊢
          exact ih hafter (by omega) (by omega) hread
        · rw [if_neg hempty] at hread ⊢
          exact ih hafter (by omega) (by omega) hread
    | closing written =>
      cases hsame
      simp only at hread ⊢
      by_cases hwritten : written = frame.written
      · rw [if_pos hwritten] at hread ⊢
        cases outer with
        | nil =>
          obtain ⟨_, hepilog, rfl⟩ := exists_of_map_eq_ok hread
          have hepilog' := readEpilog_eq_ok hafter (Nat.lt_succ_self _) (Nat.lt_succ_self _) hepilog
          simp only [hepilog']
          rfl
        | cons parent outer => exact ih hafter (by omega) (by omega) hread
      · rw [if_neg hwritten] at hread
        cases hread

theorem readContent_reference (ih : ReadsAlike fuel) (h : SameLines cs ds)
    (hfuel : cs.length < fuel) (hfuel' : ds.length < fuel')
    (hread : readContent (fuel + 1) frame outer ('&' :: cs) = .ok m) :
    readContent (fuel' + 1) frame outer ('&' :: ds) = .ok m := by
  have htag : '&' ≠ '<' := by decide
  rw [readContent, if_neg htag, if_pos rfl] at hread ⊢
  cases href : reference cs with
  | error e =>
    rw [href] at hread
    cases hread
  | ok r =>
    have hlength := (reference_inStep (.refl cs)).length_lt href
    obtain ⟨_, after', href', rfl, hafter, hlength'⟩ := reference_inStep h r.1 r.2 href
    rw [href] at hread
    rw [href']
    simp only at hread ⊢
    cases hresolve : r.1.resolve (cs.length + 1) (cs.length + 1) with
    | error e =>
      rw [hresolve] at hread
      cases hread
    | ok c =>
      rw [hresolve] at hread
      rw [Reference.resolve_eq_ok hresolve]
      exact ih hafter (by omega) (by omega) hread

theorem readsAlike (fuel : Nat) : ReadsAlike fuel := by
  induction fuel with
  | zero => exact fun _ hfuel => absurd hfuel (Nat.not_lt_zero _)
  | succ fuel ih =>
    intro cs ds fuel' frame outer m h hfuel hfuel' hread
    obtain ⟨fuel', rfl⟩ := Nat.exists_eq_succ_of_ne_zero (Nat.ne_zero_of_lt hfuel')
    cases cs with
    | nil => cases hread
    | cons c cs =>
      simp only [List.length_cons] at hfuel
      cases hc : isLineEnd c with
      | true =>
        obtain ⟨d, ds', rfl, hd, hrest⟩ := h.of_lineEnd hc
        have hshort := length_afterLineEnd c cs
        have hshort' := length_afterLineEnd d ds'
        simp only [List.length_cons] at hfuel'
        rw [readContent_lineEnd hc] at hread
        rw [readContent_lineEnd hd]
        exact ih hrest (by omega) (by omega) hread
      | false =>
        obtain ⟨ds', rfl, hrest⟩ := h.of_cons hc
        simp only [List.length_cons] at hfuel'
        by_cases htag : c = '<'
        · subst htag
          exact readContent_tag ih hrest (by omega) (by omega) hread
        by_cases hamp : c = '&'
        · subst hamp
          exact readContent_reference ih hrest (by omega) (by omega) hread
        have hreturn : c ≠ '\r' := (isLineEnd_eq_false_iff.mp hc).2
        have hmarks : (cs.take 2 == [']', '>']) = (ds'.take 2 == [']', '>']) := by
          rw [Bool.eq_iff_iff, beq_iff_eq, beq_iff_eq]
          exact take_two_iff hrest rfl rfl
        rw [readContent, if_neg htag, if_neg hamp, if_neg hreturn] at hread ⊢
        rw [hmarks] at hread
        split_ifs at hread ⊢ with hend hchar
        exact ih hrest (by omega) (by omega) hread

/-- Texts with the same lines are the same markup. -/
theorem readWrapped_eq_ok (wrapper : String) (h : SameLines cs ds)
    (hread : readWrapped wrapper cs = .ok m) : readWrapped wrapper ds = .ok m := by
  have htext : SameLines (cs ++ endTag wrapper) (ds ++ endTag wrapper) :=
    h.append (by simp [endTag])
  exact readsAlike _ htext (Nat.lt_succ_self _) (Nat.lt_succ_self _) hread

end

end FlowBoard.Markup

namespace FlowBoard.Canvas

open Text (SameLines isLineEnd isLineEnd_eq_false_iff eq_of_isLineEnd)

variable {cs ds : List Char}

/-- The opening of a declaration, in letters of either case. -/
def OpensDeclaration (word : List Char) : Prop := word.map Char.toLower = "<?xml".toList

theorem OpensDeclaration.forall_ne {word : List Char} (h : OpensDeclaration word) {d : Char}
    (hd : d.toLower = d) (hnot : d ∉ "<?xml".toList) : ∀ c ∈ word, c ≠ d := by
  rintro c hc rfl
  have hmem := List.mem_map_of_mem (f := Char.toLower) hc
  rw [h, hd] at hmem
  exact hnot hmem

theorem OpensDeclaration.isLineEnd {word : List Char} (h : OpensDeclaration word) :
    ∀ c ∈ word, isLineEnd c = false := by
  intro c hc
  exact isLineEnd_eq_false_iff.mpr
    ⟨h.forall_ne (by decide) (by decide) c hc, h.forall_ne (by decide) (by decide) c hc⟩

theorem OpensDeclaration.length {word : List Char} (h : OpensDeclaration word) :
    word.length = 5 := by
  rw [← List.length_map (f := Char.toLower), h]
  rfl

theorem eq_of_dropWhile {tail rest : List Char} {c : Char}
    (h : tail.dropWhile (· != '>') = c :: rest) : c = '>' := by
  have hhead := List.head_dropWhile_not (· != '>') (l := tail) (by simp [h])
  simpa [h] using hhead

/-- A declaration ends at the first closing angle bracket, after a question mark. -/
theorem dropDeclaration_append {word : List Char} (h : OpensDeclaration word)
    (tail : List Char) :
    dropDeclaration (word ++ tail) =
      if (tail.takeWhile (· != '>')).getLast? = some '?' ∧ tail.dropWhile (· != '>') ≠ [] then
        (tail.dropWhile (· != '>')).tail
      else word ++ tail := by
  have hpasses : ∀ c ∈ word, (c != '>') = true := fun c hc => by
    simpa using h.forall_ne (by decide) (by decide) c hc
  have hword : (word ++ tail).take 5 = word := by
    rw [List.take_append_of_le_length (Nat.le_of_eq h.length.symm),
      List.take_of_length_le (Nat.le_of_eq h.length)]
  have hopens : (((word ++ tail).take 5).map Char.toLower == "<?xml".toList) = true := by
    rw [hword, beq_iff_eq]
    exact h
  rw [dropDeclaration, if_pos hopens]
  simp only [List.takeWhile_append_of_pos hpasses, List.dropWhile_append_of_pos hpasses]
  cases hafter : tail.dropWhile (· != '>') with
  | nil => simp
  | cons c rest =>
    obtain rfl := eq_of_dropWhile hafter
    have hlast : ((word ++ tail.takeWhile (· != '>')).getLast? == some '?' &&
        decide (5 < (word ++ tail.takeWhile (· != '>')).length)) =
        ((tail.takeWhile (· != '>')).getLast? == some '?') := by
      rw [List.length_append, h.length, List.getLast?_append]
      cases hinside : tail.takeWhile (· != '>') with
      | nil => simp
      | cons d inside =>
        rw [List.getLast?_cons]
        simp
    rw [hlast]
    simp

theorem dropDeclaration_of_not (h : ¬ OpensDeclaration (cs.take 5)) : dropDeclaration cs = cs := by
  rw [dropDeclaration, if_neg]
  simpa [OpensDeclaration] using h

theorem opensDeclaration_of_sameLines (h : SameLines cs ds)
    (hopens : OpensDeclaration (cs.take 5)) : OpensDeclaration (ds.take 5) := by
  rw [← List.take_append_drop 5 cs] at h
  obtain ⟨tail', rfl, -⟩ := h.of_append hopens.isLineEnd
  rwa [List.take_append_of_le_length (Nat.le_of_eq hopens.length.symm),
    List.take_of_length_le (Nat.le_of_eq hopens.length)]

theorem sameLines_dropDeclaration (h : SameLines cs ds) :
    SameLines (dropDeclaration cs) (dropDeclaration ds) := by
  by_cases hopens : OpensDeclaration (cs.take 5)
  · rw [← List.take_append_drop 5 cs] at h ⊢
    obtain ⟨tail', rfl, htail⟩ := h.of_append hopens.isLineEnd
    have hpasses : ∀ c, isLineEnd c = true → (c != '>') = true := by
      intro c hc
      rcases eq_of_isLineEnd hc with rfl | rfl <;> rfl
    have hinside := htail.takeWhile_of_passes hpasses
    have hafter := htail.dropWhile_of_passes hpasses
    have hlast := hinside.getLast?_eq_some_iff (c := '?') rfl
    rw [dropDeclaration_append hopens, dropDeclaration_append hopens]
    cases hrest : (cs.drop 5).dropWhile (· != '>') with
    | nil =>
      rw [hrest] at hafter
      rw [hafter.eq_nil, if_neg (by simp), if_neg (by simp)]
      exact h
    | cons c rest =>
      obtain rfl := eq_of_dropWhile hrest
      rw [hrest] at hafter
      obtain ⟨rest', hrest', hlines⟩ := hafter.of_cons rfl
      rw [hrest']
      by_cases hmark : ((cs.drop 5).takeWhile (· != '>')).getLast? = some '?'
      · rw [if_pos ⟨hmark, List.cons_ne_nil _ _⟩, if_pos ⟨hlast.mp hmark, List.cons_ne_nil _ _⟩]
        exact hlines
      · rw [if_neg fun h => hmark h.1, if_neg fun h => hmark (hlast.mpr h.1)]
        exact h
  · have hnot : ¬ OpensDeclaration (ds.take 5) := fun hds =>
      hopens (opensDeclaration_of_sameLines h.symm hds)
    rw [dropDeclaration_of_not hopens, dropDeclaration_of_not hnot]
    exact h

/-- Texts with the same lines are the same list of canvases. -/
theorem read_eq_ok {text text' : String} {list : Wire.PageList}
    (h : SameLines text.toList text'.toList) (hread : read text = .ok list) :
    read text' = .ok list := by
  rw [read] at hread ⊢
  cases hmarkup : Markup.readWrapped wrapper (dropDeclaration (Text.trimChars text.toList)) with
  | error e =>
    rw [hmarkup] at hread
    cases hread
  | ok root =>
    rw [hmarkup] at hread
    rw [Markup.readWrapped_eq_ok wrapper (sameLines_dropDeclaration h.trimChars) hmarkup]
    exact hread

end FlowBoard.Canvas
