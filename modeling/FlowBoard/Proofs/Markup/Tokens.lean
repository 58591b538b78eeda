import FlowBoard.Markup.Scanner
import FlowBoard.Proofs.Text.LineEnds
import Mathlib.Data.List.Forall2

/-!
# Tokens of texts with the same lines

Texts with the same lines are scanned in step, token by token. Names, references and marks hold no
line end; white space is passed over as a whole; and in the value of an attribute the whole of a
line end is one space.
-/

namespace FlowBoard.Markup

open Text (SameLines InStep isLineEnd isLineEnd_eq_false_iff isLineEnd_of_any eq_of_isLineEnd
  afterLineEnd afterLineEnd_of_ne length_afterLineEnd)

variable {cs ds rest : List Char} {c : Char}

/-! ## Marks and names -/

theorem isSpace_of_isLineEnd (h : isLineEnd c = true) : isSpace c = true := by
  rcases eq_of_isLineEnd h with rfl | rfl
  · rfl
  · rfl

theorem sameLines_skipSpace (h : SameLines cs ds) : SameLines (skipSpace cs) (skipSpace ds) :=
  h.dropWhile_of_passes fun _ => isSpace_of_isLineEnd

theorem length_skipSpace_le (cs : List Char) : (skipSpace cs).length ≤ cs.length :=
  (List.dropWhile_sublist _).length_le

theorem expect_eq_ok_iff : expect c cs = .ok rest ↔ cs = c :: rest := by
  cases cs with
  | nil => simp [expect]
  | cons d ds =>
    rw [expect]
    by_cases hd : d = c
    · simp [hd]
    · simp [hd, stopAt]

theorem expect_cons (c : Char) (rest : List Char) : expect c (c :: rest) = .ok rest := by
  simp [expect]

theorem exists_expect (h : SameLines cs ds) (hc : isLineEnd c = false)
    (hread : expect c cs = .ok rest) :
    ∃ rest', expect c ds = .ok rest' ∧ SameLines rest rest' ∧ rest'.length < ds.length := by
  rw [expect_eq_ok_iff] at hread
  subst hread
  obtain ⟨rest', rfl, hrest⟩ := h.of_cons hc
  exact ⟨rest', expect_cons c rest', hrest, Nat.lt_succ_self _⟩

theorem expect_inStep {α : Type} {alike : α → α → Prop} {a a' : α} (h : SameLines cs ds)
    (hc : isLineEnd c = false) (ha : alike a a') :
    InStep alike ds.length ((expect c cs).map fun rest => (a, rest))
      ((expect c ds).map fun rest => (a', rest)) := by
  cases hread : expect c cs with
  | error e => exact .error _
  | ok rest =>
    obtain ⟨rest', hread', hrest, hlength⟩ := exists_expect h hc hread
    rw [hread']
    exact .ok ha hrest hlength

theorem isNameChar_of_isNameStart (h : isNameStart c = true) : isNameChar c = true := by
  rw [isNameChar, Bool.or_eq_true]
  exact .inl h

theorem isNameChar_of_isLineEnd (h : isLineEnd c = true) : isNameChar c = false := by
  rcases eq_of_isLineEnd h with rfl | rfl
  · decide +kernel
  · decide +kernel

theorem isLineEnd_of_isNameStart (h : isNameStart c = true) : isLineEnd c = false := by
  have hchar := isNameChar_of_isNameStart h
  cases hc : isLineEnd c with
  | false => rfl
  | true => exact absurd (hchar.symm.trans (isNameChar_of_isLineEnd hc)) nofun

theorem simpleName_inStep (h : SameLines cs ds) :
    InStep Eq ds.length (simpleName cs) (simpleName ds) := by
  cases cs with
  | nil => exact .error _
  | cons c cs =>
    rw [simpleName]
    split_ifs with hc
    · obtain ⟨ds', rfl, hrest⟩ := h.of_cons (isLineEnd_of_isNameStart hc)
      rw [simpleName, if_pos hc, hrest.takeWhile_eq fun _ => isNameChar_of_isLineEnd]
      refine .ok rfl (hrest.dropWhile_of_stops fun _ => isNameChar_of_isLineEnd) ?_
      exact Nat.lt_succ_of_le (List.dropWhile_sublist _).length_le
    · exact .error _

theorem qualifiedName_of_plain {name : String} (hname : simpleName cs = .ok (name, rest))
    (h : rest.head? ≠ some ':') : qualifiedName cs = .ok (⟨none, name⟩, rest) := by
  rw [qualifiedName, hname]
  cases rest with
  | nil => rfl
  | cons c rest =>
    split
    · next heq => cases heq
    · next heq =>
      obtain ⟨-, htail⟩ := Prod.mk.inj (Except.ok.inj heq)
      rw [htail] at h
      exact absurd rfl h
    · next heq =>
      obtain ⟨rfl, rfl⟩ := Prod.mk.inj (Except.ok.inj heq)
      rfl

theorem qualifiedName_inStep (h : SameLines cs ds) :
    InStep Eq ds.length (qualifiedName cs) (qualifiedName ds) := by
  cases hcs : simpleName cs with
  | error e =>
    rw [qualifiedName, hcs]
    exact .error _
  | ok r =>
    obtain ⟨name, rest⟩ := r
    obtain ⟨_, rest', hds, rfl, hrest, hlength⟩ := simpleName_inStep h name rest hcs
    by_cases hcolon : rest.head? = some ':'
    · obtain ⟨tail, rfl⟩ := List.head?_eq_some_iff.mp hcolon
      obtain ⟨tail', rfl, htail⟩ := hrest.of_cons rfl
      simp only [qualifiedName, hcs, hds]
      cases hbase : simpleName tail with
      | error e => exact .error _
      | ok r =>
        obtain ⟨_, after', hbase', rfl, hafter, hshort⟩ := simpleName_inStep htail r.1 r.2 hbase
        simp only [hbase']
        refine .ok rfl hafter ?_
        simp only [List.length_cons] at hlength
        omega
    · rw [qualifiedName_of_plain hcs hcolon,
        qualifiedName_of_plain hds ((hrest.head?_eq_some_iff rfl).not.mp hcolon)]
      exact .ok rfl hrest hlength

/-! ## References -/

theorem characterReference_inStep {value? : Char → Option Nat}
    (hvalue : ∀ c, isLineEnd c = true → (value? c).isSome = false) (base : Nat)
    (h : SameLines cs ds) :
    InStep Eq ds.length (characterReference value? base cs)
      (characterReference value? base ds) := by
  have htake := h.takeWhile_eq (p := fun c => (value? c).isSome) hvalue
  have hdrop := h.dropWhile_of_stops (p := fun c => (value? c).isSome) hvalue
  simp only [characterReference, htake]
  by_cases hnone : (ds.takeWhile fun c => (value? c).isSome).isEmpty = true
  · rw [if_pos hnone]
    exact .error _
  rw [if_neg hnone, if_neg hnone]
  cases hend : expect ';' (cs.dropWhile fun c => (value? c).isSome) with
  | error e => exact .error _
  | ok rest =>
    obtain ⟨rest', hend', hrest, hlength⟩ := exists_expect hdrop rfl hend
    simp only [hend']
    exact .ok rfl hrest (Nat.lt_of_lt_of_le hlength (List.dropWhile_sublist _).length_le)

theorem hexValue?_of_isLineEnd (h : isLineEnd c = true) : (Text.hexValue? c).isSome = false := by
  rcases eq_of_isLineEnd h with rfl | rfl
  · rfl
  · rfl

theorem asciiDigit?_of_isLineEnd (h : isLineEnd c = true) : (asciiDigit? c).isSome = false := by
  rcases eq_of_isLineEnd h with rfl | rfl
  · rfl
  · rfl

/-- A reference that names an entity. -/
theorem reference_of_ne (h : cs.head? ≠ some '#') :
    reference cs = match simpleName cs with
      | .error e => .error e
      | .ok (name, rest) =>
        match expect ';' rest with
        | .error e => .error e
        | .ok rest => .ok (.entity name, rest) := by
  rw [reference.eq_def]
  split
  · exact absurd rfl h
  · exact absurd rfl h
  · rfl

theorem reference_decimal (h : cs.head? ≠ some 'x') :
    reference ('#' :: cs) = characterReference asciiDigit? 10 cs := by
  rw [reference.eq_def]
  split
  · next heq =>
    obtain ⟨-, rfl⟩ := List.cons.inj heq
    exact absurd rfl h
  · next heq =>
    obtain ⟨-, rfl⟩ := List.cons.inj heq
    rfl
  · next hnumber => exact absurd rfl (hnumber cs)

theorem reference_inStep (h : SameLines cs ds) :
    InStep Eq ds.length (reference cs) (reference ds) := by
  by_cases hnumber : cs.head? = some '#'
  · obtain ⟨tail, rfl⟩ := List.head?_eq_some_iff.mp hnumber
    obtain ⟨tail', rfl, htail⟩ := h.of_cons rfl
    by_cases hhex : tail.head? = some 'x'
    · obtain ⟨digits, rfl⟩ := List.head?_eq_some_iff.mp hhex
      obtain ⟨digits', rfl, hdigits⟩ := htail.of_cons rfl
      refine (characterReference_inStep (fun _ => hexValue?_of_isLineEnd) 16 hdigits).mono ?_
      simp only [List.length_cons]
      omega
    · rw [reference_decimal hhex,
        reference_decimal ((htail.head?_eq_some_iff rfl).not.mp hhex)]
      refine (characterReference_inStep (fun _ => asciiDigit?_of_isLineEnd) 10 htail).mono ?_
      exact Nat.le_succ _
  · rw [reference_of_ne hnumber, reference_of_ne ((h.head?_eq_some_iff rfl).not.mp hnumber)]
    cases hname : simpleName cs with
    | error e => exact .error _
    | ok r =>
      obtain ⟨_, rest', hname', rfl, hrest, hlength⟩ := simpleName_inStep h r.1 r.2 hname
      simp only [hname']
      cases hend : expect ';' r.2 with
      | error e => exact .error _
      | ok rest =>
        obtain ⟨after', hend', hafter, hshort⟩ := exists_expect hrest rfl hend
        simp only [hend']
        exact .ok rfl hafter (Nat.lt_trans hshort hlength)

/-! ## Attributes -/

/-- The same piece, wherever it stands. -/
inductive Piece.Same : Piece → Piece → Prop
  | char (c : Char) : Same (.char c) (.char c)
  | reference (ref : Reference) (left left' : Nat) :
      Same (.reference ref left) (.reference ref left')

structure RawAttribute.Same (a a' : RawAttribute) : Prop where
  name : a.name = a'.name
  value : List.Forall₂ Piece.Same a.value a'.value

theorem inStep_piece {x y : Scan (List Piece)} {bound : Nat} {piece piece' : Piece}
    (h : InStep (List.Forall₂ Piece.Same) bound x y) (hpiece : piece.Same piece') :
    InStep (List.Forall₂ Piece.Same) bound (x.map fun r => (piece :: r.1, r.2))
      (y.map fun r => (piece' :: r.1, r.2)) :=
  h.map (fun _ _ _ _ hv => .cons hpiece hv) (fun _ => rfl) fun _ => rfl

/-- The whole of a line end is one space in a value. -/
theorem attributeValue_lineEnd {quote : Char} (hquote : isLineEnd quote = false)
    (hc : isLineEnd c = true) (fuel : Nat) (rest : List Char) :
    attributeValue quote (fuel + 1) (c :: rest) =
      (attributeValue quote fuel (afterLineEnd (c :: rest))).map fun r =>
        (.char ' ' :: r.1, r.2) := by
  have hne : c ≠ quote := by
    rintro rfl
    exact absurd (hc.symm.trans hquote) nofun
  simp only [attributeValue, if_neg hne]
  rcases eq_of_isLineEnd hc with rfl | rfl
  · rfl
  · by_cases hfeed : rest.head? = some '\n'
    · obtain ⟨tail, rfl⟩ := List.head?_eq_some_iff.mp hfeed
      rfl
    · rw [afterLineEnd_of_ne hfeed]
      simp [hfeed, isSpace, isMarkupChar]

theorem attributeValue_inStep {quote : Char} (hquote : isLineEnd quote = false) (fuel : Nat)
    {fuel' : Nat} (h : SameLines cs ds) (hfuel : ds.length < fuel') :
    InStep (List.Forall₂ Piece.Same) ds.length
      (attributeValue quote fuel cs) (attributeValue quote fuel' ds) := by
  induction fuel generalizing fuel' cs ds with
  | zero =>
    rw [attributeValue.eq_def]
    exact .error _
  | succ fuel ih =>
    obtain ⟨fuel', rfl⟩ := Nat.exists_eq_succ_of_ne_zero (Nat.ne_zero_of_lt hfuel)
    cases cs with
    | nil => exact .error _
    | cons c cs =>
      cases hc : isLineEnd c with
      | true =>
        obtain ⟨d, ds', rfl, hd, hrest⟩ := h.of_lineEnd hc
        have hshort := length_afterLineEnd d ds'
        rw [attributeValue_lineEnd hquote hc, attributeValue_lineEnd hquote hd]
        simp only [List.length_cons] at hfuel
        exact (inStep_piece (ih hrest (by omega)) (.char _)).mono (Nat.le_succ_of_le hshort)
      | false =>
        obtain ⟨ds', rfl, hrest⟩ := h.of_cons hc
        have hreturn : decide (c = '\r') = false :=
          decide_eq_false (isLineEnd_eq_false_iff.mp hc).2
        simp only [List.length_cons] at hfuel
        simp only [attributeValue, hreturn, Bool.false_and, Bool.false_eq_true, if_false]
        by_cases hend : c = quote
        · rw [if_pos hend, if_pos hend]
          exact .ok .nil hrest (Nat.lt_succ_self _)
        by_cases hbad : (decide (c = '<') || !isMarkupChar c) = true
        · rw [if_neg hend, if_pos hbad]
          exact .error _
        rw [if_neg hend, if_neg hend, if_neg hbad, if_neg hbad]
        by_cases hamp : c = '&'
        · rw [if_pos hamp, if_pos hamp]
          cases href : reference cs with
          | error e => exact .error _
          | ok r =>
            obtain ⟨_, after', href', rfl, hafter, hshort⟩ := reference_inStep hrest r.1 r.2 href
            simp only [href']
            exact (inStep_piece (ih hafter (by omega)) (.reference _ _ _)).mono
              (Nat.le_of_lt (Nat.lt_succ_of_lt hshort))
        rw [if_neg hamp, if_neg hamp]
        split_ifs with hspace
        · exact (inStep_piece (ih hrest (by omega)) (.char _)).mono (Nat.le_succ _)
        · exact (inStep_piece (ih hrest (by omega)) (.char _)).mono (Nat.le_succ _)

theorem rawAttribute_inStep (h : SameLines cs ds) :
    InStep RawAttribute.Same ds.length (rawAttribute cs) (rawAttribute ds) := by
  rw [rawAttribute]
  cases hname : qualifiedName cs with
  | error e => exact .error _
  | ok r =>
    obtain ⟨_, rest', hname', rfl, hrest, hlength⟩ := qualifiedName_inStep h r.1 r.2 hname
    simp only
    cases hsign : expect '=' (skipSpace r.2) with
    | error e => exact .error _
    | ok rest =>
      obtain ⟨value', hsign', hvalue, hshort⟩ :=
        exists_expect (sameLines_skipSpace hrest) rfl hsign
      have hspace := length_skipSpace_le rest'
      have hspace' := length_skipSpace_le value'
      simp only [rawAttribute, hname', hsign']
      have hopen := sameLines_skipSpace hvalue
      cases hquoted : skipSpace rest with
      | nil => exact .error _
      | cons q body =>
        by_cases hquote : (decide (q = '"') || decide (q = '\'')) = true
        · have hq : isLineEnd q = false := by
            simp only [Bool.or_eq_true, decide_eq_true_eq] at hquote
            rcases hquote with rfl | rfl
            · rfl
            · rfl
          rw [hquoted] at hopen
          obtain ⟨body', hquoted', hbody⟩ := hopen.of_cons hq
          rw [hquoted', List.length_cons] at hspace'
          simp only [hquoted', if_pos hquote]
          have hstep := attributeValue_inStep hq (body.length + 1) hbody (Nat.lt_succ_self _)
          exact InStep.mono (hstep.map (fun _ _ _ _ hv => ⟨rfl, hv⟩) (fun _ => rfl) fun _ => rfl)
            (by omega)
        · simp only [hquote]
          exact .error _

/-! ## Tags -/

theorem exists_isSpace (h : SameLines (c :: cs) ds) (hc : isSpace c = true) :
    ∃ d ds', ds = d :: ds' ∧ isSpace d = true := by
  cases hend : isLineEnd c with
  | true =>
    obtain ⟨d, ds', rfl, hd, -⟩ := h.of_lineEnd hend
    exact ⟨d, ds', rfl, isSpace_of_isLineEnd hd⟩
  | false =>
    obtain ⟨ds', rfl, -⟩ := h.of_cons hend
    exact ⟨c, ds', rfl, hc⟩

theorem skipSpace_of_isSpace (hc : isSpace c = true) (rest : List Char) :
    skipSpace (c :: rest) = skipSpace rest := List.dropWhile_cons_of_pos hc

/-- The character after white space is none. -/
theorem isSpace_of_skipSpace (h : skipSpace cs = c :: rest) : isSpace c = false := by
  rw [skipSpace] at h
  have hhead := List.head_dropWhile_not isSpace (l := cs) (by simp [h])
  simpa only [h, List.head_cons] using hhead

theorem isLineEnd_of_skipSpace (h : skipSpace cs = c :: rest) : isLineEnd c = false := by
  cases hc : isLineEnd c with
  | false => rfl
  | true => exact absurd ((isSpace_of_isLineEnd hc).symm.trans (isSpace_of_skipSpace h)) nofun

theorem tagRest_of_isSpace (hc : isSpace c = true) (fuel : Nat) (rest : List Char) :
    tagRest (fuel + 1) (c :: rest) =
      match (skipSpace rest).head? with
      | none => .error .ended
      | some d =>
        if d = '>' || d = '/' then tagRest fuel (skipSpace rest)
        else
          match rawAttribute (skipSpace rest) with
          | .error e => .error e
          | .ok (a, rest) => (tagRest fuel rest).map fun r => ((a :: r.1.1, r.1.2), r.2) := by
  have hend : c ≠ '>' := by
    rintro rfl
    exact absurd hc (by decide)
  have hslash : c ≠ '/' := by
    rintro rfl
    exact absurd hc (by decide)
  exact (if_neg hend).trans ((if_neg hslash).trans (if_pos hc))

/-- What a tag holds after its name, and how it ends. -/
def SameRest (r r' : List RawAttribute × Bool) : Prop :=
  List.Forall₂ RawAttribute.Same r.1 r'.1 ∧ r.2 = r'.2

theorem tagRest_inStep (fuel : Nat) {fuel' : Nat} (h : SameLines cs ds)
    (hfuel : ds.length < fuel') :
    InStep SameRest ds.length (tagRest fuel cs) (tagRest fuel' ds) := by
  induction fuel generalizing fuel' cs ds with
  | zero =>
    rw [tagRest.eq_def]
    exact .error _
  | succ fuel ih =>
    obtain ⟨fuel', rfl⟩ := Nat.exists_eq_succ_of_ne_zero (Nat.ne_zero_of_lt hfuel)
    cases cs with
    | nil => exact .error _
    | cons c cs =>
      by_cases hspace : isSpace c = true
      · obtain ⟨d, ds', rfl, hd⟩ := exists_isSpace h hspace
        have hskip := sameLines_skipSpace h
        rw [skipSpace_of_isSpace hspace, skipSpace_of_isSpace hd] at hskip
        have hshort := length_skipSpace_le ds'
        simp only [List.length_cons] at hfuel
        rw [tagRest_of_isSpace hspace, tagRest_of_isSpace hd]
        cases hnext : (skipSpace cs).head? with
        | none => exact .error _
        | some e =>
          obtain ⟨body, hbody⟩ := List.head?_eq_some_iff.mp hnext
          rw [(hskip.head?_eq_some_iff (isLineEnd_of_skipSpace hbody)).mp hnext]
          simp only
          by_cases hmark : (decide (e = '>') || decide (e = '/')) = true
          · rw [if_pos hmark, if_pos hmark]
            exact (ih hskip (by omega)).mono (Nat.le_succ_of_le hshort)
          rw [if_neg hmark, if_neg hmark]
          cases hattribute : rawAttribute (skipSpace cs) with
          | error e => exact .error _
          | ok r =>
            obtain ⟨a', rest', hattribute', ha, hrest, hlength⟩ :=
              rawAttribute_inStep hskip r.1 r.2 hattribute
            simp only [hattribute']
            refine InStep.mono ((ih hrest (by omega)).map ?_ (fun _ => rfl) fun _ => rfl) ?_
            · exact fun _ _ _ _ hr => ⟨.cons ha hr.1, hr.2⟩
            · simp only [List.length_cons]
              omega
      rw [tagRest]
      by_cases hend : c = '>'
      · subst hend
        obtain ⟨ds', rfl, hrest⟩ := h.of_cons rfl
        exact .ok ⟨.nil, rfl⟩ hrest (Nat.lt_succ_self _)
      by_cases hslash : c = '/'
      · subst hslash
        obtain ⟨ds', rfl, hrest⟩ := h.of_cons rfl
        rw [if_neg hend, if_pos rfl, tagRest, if_neg hend, if_pos rfl]
        exact (expect_inStep hrest rfl ⟨.nil, rfl⟩).mono (Nat.le_succ _)
      · rw [if_neg hend, if_neg hslash, if_neg hspace]
        exact .error _

/-! ## Tokens -/

/-- The same token, wherever its attributes stand. -/
inductive Token.Same : Token → Token → Prop
  | refl (t : Token) : Same t t
  | opening (name : QName) (empty : Bool) {raw raw' : List RawAttribute}
      (h : List.Forall₂ RawAttribute.Same raw raw') :
      Same (.opening name raw empty) (.opening name raw' empty)

theorem Token.Same.opening_inv {name : QName} {raw : List RawAttribute} {empty : Bool} {t : Token}
    (h : Token.Same (.opening name raw empty) t) :
    ∃ raw', t = .opening name raw' empty ∧ List.Forall₂ RawAttribute.Same raw raw' := by
  cases h with
  | opening _ _ hraw => exact ⟨_, rfl, hraw⟩
  | refl =>
    refine ⟨raw, rfl, List.forall₂_same.mpr fun a _ => ⟨rfl, List.forall₂_same.mpr fun p _ => ?_⟩⟩
    cases p with
    | char c => exact .char c
    | reference ref left => exact .reference ref left left

theorem comment_body_lineEnd (hc : isLineEnd c = true) (rest : List Char) :
    comment.body (c :: rest) = comment.body (afterLineEnd (c :: rest)) := by
  rcases eq_of_isLineEnd hc with rfl | rfl
  · rfl
  · by_cases hfeed : rest.head? = some '\n'
    · obtain ⟨tail, rfl⟩ := List.head?_eq_some_iff.mp hfeed
      rfl
    · rw [afterLineEnd_of_ne hfeed]
      rfl

theorem comment_body_cons (h : c = '-' → cs.head? ≠ some '-') :
    comment.body (c :: cs) = if isMarkupChar c then comment.body cs else stopAt (c :: cs) := by
  by_cases hc : c = '-'
  · subst hc
    cases cs with
    | nil => rfl
    | cons d cs =>
      have hd : d ≠ '-' := by simpa using h
      rw [comment.body]
      · exact fun _ hnil => nomatch hnil
      · exact fun _ heq => hd (List.cons.inj heq).1
      · exact fun _ _ _ heq => hd (List.cons.inj heq).1
  · rw [comment.body]
    · exact fun hc' => absurd hc' hc
    · exact fun hc' => absurd hc' hc
    · exact fun _ _ hc' => absurd hc' hc

theorem comment_body_inStep (h : SameLines cs ds) :
    InStep Token.Same ds.length (comment.body cs) (comment.body ds) := by
  induction cs using Text.induction_lines generalizing ds with
  | nil => exact .error _
  | lineEnd c cs hc ih =>
    obtain ⟨d, ds', rfl, hd, hrest⟩ := h.of_lineEnd hc
    rw [comment_body_lineEnd hc, comment_body_lineEnd hd]
    exact (ih hrest).mono (Nat.le_succ_of_le (length_afterLineEnd d ds'))
  | cons c cs hc ih =>
    obtain ⟨ds', rfl, hrest⟩ := h.of_cons hc
    by_cases hmarks : c = '-' ∧ cs.head? = some '-'
    · obtain ⟨rfl, hsecond⟩ := hmarks
      obtain ⟨tail, rfl⟩ := List.head?_eq_some_iff.mp hsecond
      obtain ⟨tail', rfl, htail⟩ := hrest.of_cons rfl
      cases tail with
      | nil => exact .error _
      | cons e tail =>
        rw [comment.body]
        by_cases hend : e = '>'
        · subst hend
          obtain ⟨after', rfl, hafter⟩ := htail.of_cons rfl
          refine .ok (.refl _) hafter ?_
          simp only [List.length_cons]
          omega
        · rw [if_neg hend]
          exact .error _
    · have hone : c = '-' → cs.head? ≠ some '-' := fun h h' => hmarks ⟨h, h'⟩
      have hone' : c = '-' → ds'.head? ≠ some '-' := fun h =>
        (hrest.head?_eq_some_iff rfl).not.mp (hone h)
      rw [comment_body_cons hone, comment_body_cons hone']
      split_ifs with hchar
      · exact (ih hrest).mono (Nat.le_succ _)
      · exact .error _

theorem comment_inStep (h : SameLines cs ds) :
    InStep Token.Same ds.length (comment cs) (comment ds) := by
  rw [comment]
  cases hread : expect '-' cs with
  | error e => exact .error _
  | ok rest =>
    obtain ⟨rest', hread', hrest, hlength⟩ := exists_expect h rfl hread
    rw [comment, hread']
    exact (comment_body_inStep hrest).mono (Nat.le_of_lt hlength)

theorem instructionBody_lineEnd (hc : isLineEnd c = true) (rest : List Char) :
    instructionBody (c :: rest) = instructionBody (afterLineEnd (c :: rest)) := by
  rcases eq_of_isLineEnd hc with rfl | rfl
  · rfl
  · by_cases hfeed : rest.head? = some '\n'
    · obtain ⟨tail, rfl⟩ := List.head?_eq_some_iff.mp hfeed
      rfl
    · rw [afterLineEnd_of_ne hfeed]
      rfl

theorem instructionBody_cons (h : c = '?' → cs.head? ≠ some '>') :
    instructionBody (c :: cs) =
      if isMarkupChar c then instructionBody cs else stopAt (c :: cs) := by
  by_cases hc : c = '?'
  · subst hc
    cases cs with
    | nil => rfl
    | cons d cs =>
      have hd : d ≠ '>' := by simpa using h
      rw [instructionBody]
      · exact fun _ hnil => nomatch hnil
      · exact fun _ _ heq => hd (List.cons.inj heq).1
  · rw [instructionBody]
    · exact fun hc' => absurd hc' hc
    · exact fun _ hc' => absurd hc' hc

theorem instructionBody_inStep (t : Token) (h : SameLines cs ds) :
    InStep Token.Same ds.length ((instructionBody cs).map fun rest => (t, rest))
      ((instructionBody ds).map fun rest => (t, rest)) := by
  induction cs using Text.induction_lines generalizing ds with
  | nil => exact .error _
  | lineEnd c cs hc ih =>
    obtain ⟨d, ds', rfl, hd, hrest⟩ := h.of_lineEnd hc
    rw [instructionBody_lineEnd hc, instructionBody_lineEnd hd]
    exact (ih hrest).mono (Nat.le_succ_of_le (length_afterLineEnd d ds'))
  | cons c cs hc ih =>
    obtain ⟨ds', rfl, hrest⟩ := h.of_cons hc
    by_cases hmarks : c = '?' ∧ cs.head? = some '>'
    · obtain ⟨rfl, hsecond⟩ := hmarks
      obtain ⟨tail, rfl⟩ := List.head?_eq_some_iff.mp hsecond
      obtain ⟨tail', rfl, htail⟩ := hrest.of_cons rfl
      refine .ok (.refl _) htail ?_
      simp only [List.length_cons]
      omega
    · have hone : c = '?' → cs.head? ≠ some '>' := fun h h' => hmarks ⟨h, h'⟩
      have hone' : c = '?' → ds'.head? ≠ some '>' := fun h =>
        (hrest.head?_eq_some_iff rfl).not.mp (hone h)
      rw [instructionBody_cons hone, instructionBody_cons hone']
      split_ifs with hchar
      · exact (ih hrest).mono (Nat.le_succ _)
      · exact .error _

theorem instructionBody_of_isSpace (hc : isSpace c = true) (rest : List Char) :
    instructionBody (c :: rest) = instructionBody rest := by
  have hmark : c ≠ '?' := by
    rintro rfl
    exact absurd hc (by decide)
  have hchar : isMarkupChar c = true := by
    simp only [isSpace, Bool.or_eq_true, beq_iff_eq] at hc
    rcases hc with ((rfl | rfl) | rfl) | rfl <;> decide
  rw [instructionBody_cons fun h => absurd h hmark, if_pos hchar]

theorem instruction_inStep (h : SameLines cs ds) :
    InStep Token.Same ds.length (instruction cs) (instruction ds) := by
  cases hname : simpleName cs with
  | error e =>
    rw [instruction, hname]
    exact .error _
  | ok r =>
    obtain ⟨target, rest⟩ := r
    obtain ⟨_, rest', hname', rfl, hrest, hlength⟩ := simpleName_inStep h target rest hname
    simp only [instruction, hname, hname']
    cases rest with
    | nil => exact .error _
    | cons c rest =>
      by_cases hspace : isSpace c = true
      · obtain ⟨d, tail', rfl, hd⟩ := exists_isSpace hrest hspace
        have hbody := instructionBody_inStep (instructionToken target) hrest
        rw [instructionBody_of_isSpace hspace, instructionBody_of_isSpace hd] at hbody
        simp only [if_pos hspace, if_pos hd]
        by_cases hreserved : isReserved target = true
        · simp only [if_pos hreserved]
          exact .error _
        · simp only [if_neg hreserved]
          exact hbody.mono (Nat.le_of_lt hlength)
      · simp only [if_neg hspace]
        by_cases hend : (decide (c = '?') && !isReserved target) = true
        · obtain ⟨rfl, hfree⟩ : c = '?' ∧ isReserved target = false := by simpa using hend
          obtain ⟨tail', rfl, htail⟩ := hrest.of_cons rfl
          simp only [if_neg hspace, hfree, decide_true, Bool.not_false, Bool.and_self, if_true]
          refine InStep.mono (expect_inStep htail rfl (.refl _)) ?_
          simp only [List.length_cons] at hlength
          omega
        · simp only [if_neg hend]
          exact .error _

theorem closingTag_inStep (h : SameLines cs ds) :
    InStep Token.Same ds.length (closingTag cs) (closingTag ds) := by
  cases cs with
  | nil => exact .error _
  | cons c cs =>
    simp only [closingTag]
    by_cases hc : isNameStart c = true
    · obtain ⟨ds', rfl, hrest⟩ := h.of_cons (isLineEnd_of_isNameStart hc)
      have hstops : ∀ c, isLineEnd c = true → (isNameChar c || c == ':') = false := by
        intro c hc
        rw [isNameChar_of_isLineEnd hc]
        rcases eq_of_isLineEnd hc with rfl | rfl <;> rfl
      have hafter := sameLines_skipSpace (hrest.dropWhile_of_stops hstops)
      have hname := length_skipSpace_le (ds'.dropWhile fun c => isNameChar c || c == ':')
      have hdrop := (ds'.dropWhile_sublist fun c => isNameChar c || c == ':').length_le
      simp only [if_pos hc, hrest.takeWhile_eq hstops]
      refine InStep.mono (expect_inStep hafter rfl (.refl _)) ?_
      simp only [List.length_cons]
      omega
    · simp only [if_neg hc]
      exact .error _

theorem expectWord_eq_ok_iff {word : List Char} :
    expectWord word cs = .ok rest ↔ cs = word ++ rest := by
  induction word generalizing cs with
  | nil => simp [expectWord]
  | cons c word ih =>
    rw [expectWord]
    cases hread : expect c cs with
    | error e =>
      simp only [reduceCtorEq, false_iff]
      rintro rfl
      rw [List.cons_append, expect_cons] at hread
      cases hread
    | ok after =>
      rw [expect_eq_ok_iff] at hread
      simp [hread, ih]

theorem expectWord_inStep {word : List Char} (h : SameLines cs ds)
    (hword : ∀ c ∈ word, isLineEnd c = false) (hne : word ≠ []) (t : Token) :
    InStep Token.Same ds.length ((expectWord word cs).map fun rest => (t, rest))
      ((expectWord word ds).map fun rest => (t, rest)) := by
  cases hread : expectWord word cs with
  | error e => exact .error _
  | ok rest =>
    rw [expectWord_eq_ok_iff] at hread
    subst hread
    obtain ⟨rest', rfl, hrest⟩ := h.of_append hword
    rw [expectWord_eq_ok_iff.mpr rfl]
    refine .ok (.refl _) hrest ?_
    have hpos := List.length_pos_of_ne_nil hne
    rw [List.length_append]
    omega

/-- A tag that opens an element. -/
theorem token_opening_inStep (h : SameLines cs ds) :
    InStep Token.Same ds.length
      (match qualifiedName cs with
      | .error e => .error e
      | .ok (name, rest) =>
        (tagRest (rest.length + 1) rest).map fun r => (.opening name r.1.1 r.1.2, r.2))
      (match qualifiedName ds with
      | .error e => .error e
      | .ok (name, rest) =>
        (tagRest (rest.length + 1) rest).map fun r => (.opening name r.1.1 r.1.2, r.2)) := by
  cases hname : qualifiedName cs with
  | error e => exact .error _
  | ok r =>
    obtain ⟨name, rest⟩ := r
    obtain ⟨_, rest', hname', rfl, hrest, hlength⟩ := qualifiedName_inStep h name rest hname
    simp only [hname']
    have hstep := tagRest_inStep (rest.length + 1) hrest (Nat.lt_succ_self _)
    refine InStep.mono (hstep.map ?_ (fun _ => rfl) fun _ => rfl) (Nat.le_of_lt hlength)
    rintro ⟨raw, empty⟩ ⟨raw', empty'⟩ _ _ ⟨hraw, rfl⟩
    exact .opening name empty hraw

theorem token_of_ne (hbang : cs.head? ≠ some '!') (hquestion : cs.head? ≠ some '?')
    (hslash : cs.head? ≠ some '/') :
    token cs = match qualifiedName cs with
      | .error e => .error e
      | .ok (name, rest) =>
        (tagRest (rest.length + 1) rest).map fun r => (.opening name r.1.1 r.1.2, r.2) := by
  unfold token
  split
  · exact absurd rfl hbang
  · exact absurd rfl hbang
  · exact absurd rfl hbang
  · exact absurd rfl hquestion
  · exact absurd rfl hslash
  · cases qualifiedName cs with
    | error e => rfl
    | ok r => rfl

/-- After an exclamation mark there is a comment or a character section. -/
theorem token_bang_inStep (h : SameLines cs ds) :
    InStep Token.Same ds.length (token ('!' :: cs)) (token ('!' :: ds)) := by
  by_cases hhyphen : cs.head? = some '-'
  · obtain ⟨cs, rfl⟩ := List.head?_eq_some_iff.mp hhyphen
    obtain ⟨ds', rfl, hrest⟩ := h.of_cons rfl
    exact (comment_inStep hrest).mono (Nat.le_succ _)
  by_cases hbracket : cs.head? = some '['
  · obtain ⟨cs, rfl⟩ := List.head?_eq_some_iff.mp hbracket
    obtain ⟨ds', rfl, hrest⟩ := h.of_cons rfl
    have hword := isLineEnd_of_any (by decide : "CDATA[".toList.any isLineEnd = false)
    exact (expectWord_inStep hrest hword (by decide) .characterSection).mono (Nat.le_succ _)
  · rw [token]
    · exact .error _
    · rintro _ rfl
      exact hhyphen rfl
    · rintro _ rfl
      exact hbracket rfl

theorem token_inStep (h : SameLines cs ds) :
    InStep Token.Same ds.length (token cs) (token ds) := by
  by_cases hbang : cs.head? = some '!'
  · obtain ⟨cs, rfl⟩ := List.head?_eq_some_iff.mp hbang
    obtain ⟨ds', rfl, hrest⟩ := h.of_cons rfl
    exact (token_bang_inStep hrest).mono (Nat.le_succ _)
  by_cases hquestion : cs.head? = some '?'
  · obtain ⟨cs, rfl⟩ := List.head?_eq_some_iff.mp hquestion
    obtain ⟨ds', rfl, hrest⟩ := h.of_cons rfl
    exact (instruction_inStep hrest).mono (Nat.le_succ _)
  by_cases hslash : cs.head? = some '/'
  · obtain ⟨cs, rfl⟩ := List.head?_eq_some_iff.mp hslash
    obtain ⟨ds', rfl, hrest⟩ := h.of_cons rfl
    exact (closingTag_inStep hrest).mono (Nat.le_succ _)
  · rw [token_of_ne hbang hquestion hslash,
      token_of_ne ((h.head?_eq_some_iff rfl).not.mp hbang)
        ((h.head?_eq_some_iff rfl).not.mp hquestion) ((h.head?_eq_some_iff rfl).not.mp hslash)]
    exact token_opening_inStep h

end FlowBoard.Markup
