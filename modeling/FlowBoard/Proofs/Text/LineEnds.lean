import FlowBoard.Proofs.Text.Blank
import FlowBoard.Text.Position
import Mathlib.Data.List.Basic

/-!
# Texts with the same lines

Two texts have the same lines if they differ in how lines end only. Such texts are walked in step:
where one has a character that ends no line, so has the other, and what follows has the same lines;
where one has the end of a line, the other has one too, and what follows these ends has the same
lines. A half of a line end is never left over by this.
-/

namespace FlowBoard.Text

def isLineEnd (c : Char) : Bool := c == '\n' || c == '\r'

/-- What follows the line end at the front. -/
def afterLineEnd : List Char → List Char
  | '\r' :: '\n' :: rest => rest
  | cs => cs.tail

theorem isLineEnd_eq_false_iff {c : Char} : isLineEnd c = false ↔ c ≠ '\n' ∧ c ≠ '\r' := by
  simp [isLineEnd]

theorem eq_of_isLineEnd {c : Char} (h : isLineEnd c = true) : c = '\n' ∨ c = '\r' := by
  simpa [isLineEnd] using h

theorem isLineEnd_of_any {word : List Char} (h : word.any isLineEnd = false) :
    ∀ c ∈ word, isLineEnd c = false := by
  intro c hc
  simpa using List.any_eq_false.mp h c hc

theorem length_afterLineEnd (c : Char) (rest : List Char) :
    (afterLineEnd (c :: rest)).length ≤ rest.length := by
  unfold afterLineEnd
  split
  · next heq =>
    obtain ⟨-, rfl⟩ := List.cons.inj heq
    simp
  · simp

theorem afterLineEnd_of_ne {rest : List Char} (h : rest.head? ≠ some '\n') (c : Char) :
    afterLineEnd (c :: rest) = rest := by
  unfold afterLineEnd
  split
  · next heq =>
    obtain ⟨-, rfl⟩ := List.cons.inj heq
    exact absurd rfl h
  · rfl

/-- Induction over the characters of a text, where a line end counts as one. -/
@[elab_as_elim]
theorem induction_lines {motive : List Char → Prop} (nil : motive [])
    (cons : ∀ c rest, isLineEnd c = false → motive rest → motive (c :: rest))
    (lineEnd : ∀ c rest, isLineEnd c = true → motive (afterLineEnd (c :: rest)) →
      motive (c :: rest)) : ∀ cs, motive cs
  | [] => nil
  | c :: rest => by
    have hshort := length_afterLineEnd c rest
    cases hc : isLineEnd c with
    | false => exact cons c rest hc (induction_lines nil cons lineEnd rest)
    | true => exact lineEnd c rest hc (induction_lines nil cons lineEnd (afterLineEnd (c :: rest)))
termination_by cs => cs.length
decreasing_by
  · simp
  · simp only [List.length_cons]
    omega

/-! ## Unified line ends -/

@[simp] theorem unifyNewlines_nil : unifyNewlines [] = [] := rfl

theorem unifyNewlinesFrom_cons {c : Char} (h : isLineEnd c = false) (afterReturn : Bool)
    (rest : List Char) :
    unifyNewlinesFrom afterReturn (c :: rest) = c :: unifyNewlines rest := by
  obtain ⟨hfeed, hreturn⟩ := isLineEnd_eq_false_iff.mp h
  rw [unifyNewlinesFrom, if_neg hreturn, if_neg (by simp [hfeed]), unifyNewlines]

theorem unifyNewlines_cons {c : Char} (h : isLineEnd c = false) (rest : List Char) :
    unifyNewlines (c :: rest) = c :: unifyNewlines rest := unifyNewlinesFrom_cons h false rest

theorem unifyNewlinesFrom_true (cs : List Char) :
    unifyNewlinesFrom true cs =
      unifyNewlines (if cs.head? = some '\n' then cs.tail else cs) := by
  cases cs with
  | nil => rfl
  | cons c rest =>
    by_cases hfeed : c = '\n'
    · subst hfeed
      rfl
    · rw [List.head?_cons, if_neg (by simpa using hfeed), unifyNewlines, unifyNewlinesFrom,
        unifyNewlinesFrom]
      simp [hfeed]

theorem unifyNewlines_lineEnd {c : Char} (h : isLineEnd c = true) (rest : List Char) :
    unifyNewlines (c :: rest) = '\n' :: unifyNewlines (afterLineEnd (c :: rest)) := by
  rcases eq_of_isLineEnd h with rfl | rfl
  · rfl
  · rw [unifyNewlines, unifyNewlinesFrom, if_pos rfl, unifyNewlinesFrom_true]
    by_cases hfeed : rest.head? = some '\n'
    · obtain ⟨tail, rfl⟩ := List.head?_eq_some_iff.mp hfeed
      rfl
    · rw [if_neg hfeed, afterLineEnd_of_ne hfeed]

theorem unifyNewlines_of_not_mem {cs : List Char} (h : '\r' ∉ cs) : unifyNewlines cs = cs := by
  rw [unifyNewlines]
  induction cs with
  | nil => rfl
  | cons c rest ih =>
    rw [List.mem_cons, not_or] at h
    rw [unifyNewlinesFrom, if_neg (Ne.symm h.1), if_neg (by simp), ih h.2]

theorem not_mem_unifyNewlinesFrom (afterReturn : Bool) (cs : List Char) :
    '\r' ∉ unifyNewlinesFrom afterReturn cs := by
  induction cs generalizing afterReturn with
  | nil => exact List.not_mem_nil
  | cons c rest ih =>
    rw [unifyNewlinesFrom]
    split_ifs with hreturn hfeed
    · simp [ih]
    · exact ih false
    · simp [ih, Ne.symm hreturn]

/-- A line end that is cut by what is appended would be completed by a line feed. -/
theorem unifyNewlinesFrom_append {es : List Char} (hes : es.head? ≠ some '\n')
    (afterReturn : Bool) (cs : List Char) :
    unifyNewlinesFrom afterReturn (cs ++ es) =
      unifyNewlinesFrom afterReturn cs ++ unifyNewlines es := by
  induction cs generalizing afterReturn with
  | nil =>
    cases afterReturn with
    | false => rfl
    | true => rw [List.nil_append, unifyNewlinesFrom_true, if_neg hes, unifyNewlinesFrom,
        List.nil_append]
  | cons c rest ih =>
    rw [List.cons_append, unifyNewlinesFrom, unifyNewlinesFrom, ih, ih]
    split_ifs <;> rfl

/-- The last character, where every line end counts as a line feed. -/
theorem getLast?_unifyNewlines (cs : List Char) :
    (unifyNewlines cs).getLast? = cs.getLast?.map fun c => if isLineEnd c then '\n' else c := by
  induction cs using induction_lines with
  | nil => rfl
  | cons c rest hc ih =>
    rw [unifyNewlines_cons hc, List.getLast?_cons, List.getLast?_cons, ih]
    cases rest.getLast? with
    | none => simp [hc]
    | some d => rfl
  | lineEnd c rest hc ih =>
    rw [unifyNewlines_lineEnd hc, List.getLast?_cons, ih]
    by_cases hfeed : c = '\r' ∧ rest.head? = some '\n'
    · obtain ⟨rfl, hhead⟩ := hfeed
      obtain ⟨tail, rfl⟩ := List.head?_eq_some_iff.mp hhead
      rw [afterLineEnd, List.getLast?_cons_cons, List.getLast?_cons]
      cases tail.getLast? with
      | none => rfl
      | some d => rfl
    · have hafter : afterLineEnd (c :: rest) = rest := by
        rcases eq_of_isLineEnd hc with rfl | rfl
        · rfl
        · exact afterLineEnd_of_ne (fun hhead => hfeed ⟨rfl, hhead⟩) '\r'
      rw [hafter, List.getLast?_cons]
      cases rest.getLast? with
      | none => simp [hc]
      | some d => rfl

/-! ## The same lines -/

def SameLines (cs ds : List Char) : Prop := unifyNewlines cs = unifyNewlines ds

namespace SameLines

variable {c : Char} {cs ds : List Char}

theorem refl (cs : List Char) : SameLines cs cs := rfl

theorem symm (h : SameLines cs ds) : SameLines ds cs := Eq.symm h

/-- Unifying the line ends keeps the lines. -/
theorem unify (cs : List Char) : SameLines cs (unifyNewlines cs) := by
  have hunified := unifyNewlines_of_not_mem (not_mem_unifyNewlinesFrom false cs)
  exact hunified.symm

theorem eq_nil (h : SameLines [] ds) : ds = [] := by
  cases ds with
  | nil => rfl
  | cons d ds =>
    rw [SameLines, unifyNewlines_nil] at h
    cases hd : isLineEnd d with
    | false =>
      rw [unifyNewlines_cons hd] at h
      cases h
    | true =>
      rw [unifyNewlines_lineEnd hd] at h
      cases h

/-- A character that ends no line stands at the front of both. -/
theorem of_cons (h : SameLines (c :: cs) ds) (hc : isLineEnd c = false) :
    ∃ ds', ds = c :: ds' ∧ SameLines cs ds' := by
  rw [SameLines, unifyNewlines_cons hc] at h
  cases ds with
  | nil => cases h
  | cons d ds' =>
    cases hd : isLineEnd d with
    | false =>
      rw [unifyNewlines_cons hd] at h
      obtain ⟨rfl, hrest⟩ := List.cons.inj h
      exact ⟨ds', rfl, hrest⟩
    | true =>
      rw [unifyNewlines_lineEnd hd] at h
      obtain ⟨rfl, -⟩ := List.cons.inj h
      cases hc

/-- A line ends at the front of both. -/
theorem of_lineEnd (h : SameLines (c :: cs) ds) (hc : isLineEnd c = true) :
    ∃ d ds', ds = d :: ds' ∧ isLineEnd d = true ∧
      SameLines (afterLineEnd (c :: cs)) (afterLineEnd (d :: ds')) := by
  rw [SameLines, unifyNewlines_lineEnd hc] at h
  cases ds with
  | nil => cases h
  | cons d ds' =>
    cases hd : isLineEnd d with
    | false =>
      rw [unifyNewlines_cons hd] at h
      obtain ⟨rfl, -⟩ := List.cons.inj h
      cases hd
    | true =>
      rw [unifyNewlines_lineEnd hd] at h
      exact ⟨d, ds', rfl, hd, (List.cons.inj h).2⟩

theorem of_append {word : List Char} (h : SameLines (word ++ cs) ds)
    (hword : ∀ c ∈ word, isLineEnd c = false) : ∃ ds', ds = word ++ ds' ∧ SameLines cs ds' := by
  induction word generalizing ds with
  | nil => exact ⟨ds, rfl, h⟩
  | cons c word ih =>
    obtain ⟨ds₁, rfl, h₁⟩ := h.of_cons (hword c List.mem_cons_self)
    obtain ⟨ds₂, rfl, h₂⟩ := ih h₁ fun d hd => hword d (List.mem_cons_of_mem c hd)
    exact ⟨ds₂, rfl, h₂⟩

theorem head?_eq_some_iff (h : SameLines cs ds) (hc : isLineEnd c = false) :
    cs.head? = some c ↔ ds.head? = some c := by
  have himp : ∀ {cs ds}, SameLines cs ds → cs.head? = some c → ds.head? = some c := by
    intro cs ds h hhead
    obtain ⟨rest, rfl⟩ := List.head?_eq_some_iff.mp hhead
    obtain ⟨ds', rfl, -⟩ := h.of_cons hc
    rfl
  exact ⟨himp h, himp h.symm⟩

theorem getLast?_eq_some_iff (h : SameLines cs ds) (hc : isLineEnd c = false) :
    cs.getLast? = some c ↔ ds.getLast? = some c := by
  have hplain : ∀ cs, cs.getLast? = some c ↔ (unifyNewlines cs).getLast? = some c := by
    intro cs
    rw [getLast?_unifyNewlines]
    cases cs.getLast? with
    | none => simp
    | some d =>
      rw [Option.map_some, Option.some.injEq, Option.some.injEq]
      split_ifs with hd
      · constructor
        · rintro rfl
          exact absurd (hd.symm.trans hc) nofun
        · rintro rfl
          exact absurd hc nofun
      · rfl
  rw [hplain cs, hplain ds, h]

/-- Two such texts can be continued alike, if no line end is completed by it. -/
theorem append {es : List Char} (h : SameLines cs ds) (hes : es.head? ≠ some '\n') :
    SameLines (cs ++ es) (ds ++ es) := by
  rw [SameLines, unifyNewlines, unifyNewlines, unifyNewlinesFrom_append hes,
    unifyNewlinesFrom_append hes]
  exact congrArg (· ++ unifyNewlines es) h

end SameLines

/-! ## Parts of texts -/

section

variable {p : Char → Bool}

theorem takeWhile_unifyNewlines (h : ∀ c, isLineEnd c = true → p c = false) (cs : List Char) :
    (unifyNewlines cs).takeWhile p = cs.takeWhile p := by
  induction cs with
  | nil => rfl
  | cons c rest ih =>
    cases hc : isLineEnd c with
    | true =>
      rw [unifyNewlines_lineEnd hc, List.takeWhile_cons_of_neg, List.takeWhile_cons_of_neg]
      · simp [h c hc]
      · simp [h '\n' rfl]
    | false =>
      rw [unifyNewlines_cons hc, List.takeWhile_cons, List.takeWhile_cons, ih]

theorem unifyNewlinesFrom_takeWhile_of_passes (h : ∀ c, isLineEnd c = true → p c = true)
    (afterReturn : Bool) (cs : List Char) :
    unifyNewlinesFrom afterReturn (cs.takeWhile p) =
      (unifyNewlinesFrom afterReturn cs).takeWhile p := by
  induction cs generalizing afterReturn with
  | nil => rfl
  | cons c rest ih =>
    cases hc : isLineEnd c with
    | true =>
      rw [List.takeWhile_cons_of_pos (h c hc), unifyNewlinesFrom, unifyNewlinesFrom]
      split_ifs with hreturn hfeed
      · rw [List.takeWhile_cons_of_pos (h '\n' rfl), ih]
      · rw [ih]
      · rw [List.takeWhile_cons_of_pos (h c hc), ih]
    | false =>
      rw [unifyNewlinesFrom_cons hc, List.takeWhile_cons, List.takeWhile_cons]
      split_ifs with hp
      · rw [unifyNewlinesFrom_cons hc]
        exact congrArg (c :: ·) (ih false)
      · rfl

theorem unifyNewlines_dropWhile_of_stops (h : ∀ c, isLineEnd c = true → p c = false)
    (cs : List Char) : unifyNewlines (cs.dropWhile p) = (unifyNewlines cs).dropWhile p := by
  induction cs with
  | nil => rfl
  | cons c rest ih =>
    cases hc : isLineEnd c with
    | true =>
      rw [List.dropWhile_cons_of_neg (by simp [h c hc]), unifyNewlines_lineEnd hc,
        List.dropWhile_cons_of_neg (by simp [h '\n' rfl])]
    | false =>
      rw [unifyNewlines_cons hc, List.dropWhile_cons, List.dropWhile_cons]
      split_ifs with hp
      · exact ih
      · exact unifyNewlines_cons hc rest

theorem unifyNewlines_dropWhile_of_passes (h : ∀ c, isLineEnd c = true → p c = true)
    (afterReturn : Bool) (cs : List Char) :
    unifyNewlines (cs.dropWhile p) = (unifyNewlinesFrom afterReturn cs).dropWhile p := by
  induction cs generalizing afterReturn with
  | nil => rfl
  | cons c rest ih =>
    cases hc : isLineEnd c with
    | true =>
      rw [List.dropWhile_cons_of_pos (h c hc), unifyNewlinesFrom]
      split_ifs with hreturn hfeed
      · rw [List.dropWhile_cons_of_pos (h '\n' rfl)]
        exact ih true
      · exact ih false
      · rw [List.dropWhile_cons_of_pos (h c hc)]
        exact ih false
    | false =>
      rw [unifyNewlinesFrom_cons hc, List.dropWhile_cons, List.dropWhile_cons]
      split_ifs with hp
      · exact ih false
      · exact unifyNewlines_cons hc rest

variable {cs ds : List Char}

theorem SameLines.takeWhile_eq (hs : SameLines cs ds) (h : ∀ c, isLineEnd c = true → p c = false) :
    cs.takeWhile p = ds.takeWhile p := by
  rw [← takeWhile_unifyNewlines h cs, ← takeWhile_unifyNewlines h ds, hs]

theorem SameLines.takeWhile_of_passes (hs : SameLines cs ds)
    (h : ∀ c, isLineEnd c = true → p c = true) : SameLines (cs.takeWhile p) (ds.takeWhile p) := by
  rw [SameLines, unifyNewlines, unifyNewlines, unifyNewlinesFrom_takeWhile_of_passes h,
    unifyNewlinesFrom_takeWhile_of_passes h]
  exact congrArg (List.takeWhile p) hs

theorem SameLines.dropWhile_of_stops (hs : SameLines cs ds)
    (h : ∀ c, isLineEnd c = true → p c = false) : SameLines (cs.dropWhile p) (ds.dropWhile p) := by
  rw [SameLines, unifyNewlines_dropWhile_of_stops h, unifyNewlines_dropWhile_of_stops h, hs]

theorem SameLines.dropWhile_of_passes (hs : SameLines cs ds)
    (h : ∀ c, isLineEnd c = true → p c = true) : SameLines (cs.dropWhile p) (ds.dropWhile p) := by
  rw [SameLines, unifyNewlines_dropWhile_of_passes h false,
    unifyNewlines_dropWhile_of_passes h false]
  exact congrArg (List.dropWhile p) hs

end

/-! ## Trimmed texts -/

theorem isBlank_of_isLineEnd {c : Char} (h : isLineEnd c = true) : isBlank c = true := by
  rcases eq_of_isLineEnd h with rfl | rfl
  · decide
  · decide

theorem trimRight_cons (c : Char) (rest : List Char) :
    trimRight (c :: rest) =
      if isBlank c = true ∧ trimRight rest = [] then [] else c :: trimRight rest := by
  rw [trimRight]
  cases trimRight rest with
  | nil => simp
  | cons d kept => simp

/-- What was trimmed is no rest of a line end. -/
theorem unifyNewlinesFrom_trimRight_eq_nil_iff (afterReturn : Bool) (cs : List Char) :
    unifyNewlinesFrom afterReturn (trimRight cs) = [] ↔ trimRight cs = [] := by
  constructor
  · intro h
    by_contra hne
    obtain ⟨c, kept, hkept⟩ := List.exists_cons_of_ne_nil hne
    rw [hkept, unifyNewlinesFrom] at h
    split_ifs at h with hreturn hfeed
    have hsolid := endsSolid_trimRight hne
    have hnil : kept = [] := SameLines.eq_nil h.symm
    simp only [Bool.and_eq_true, decide_eq_true_eq] at hfeed
    rw [hkept, hnil, hfeed.1] at hsolid
    revert hsolid
    decide
  · intro h
    rw [h, unifyNewlinesFrom]

theorem trimRight_unifyNewlinesFrom (afterReturn : Bool) (cs : List Char) :
    unifyNewlinesFrom afterReturn (trimRight cs) =
      trimRight (unifyNewlinesFrom afterReturn cs) := by
  induction cs generalizing afterReturn with
  | nil => rfl
  | cons c rest ih =>
    have hnil := fun afterReturn => unifyNewlinesFrom_trimRight_eq_nil_iff afterReturn rest
    have hfeedBlank : isBlank '\n' = true := by decide
    have hreturnBlank : isBlank '\r' = true := by decide
    rw [unifyNewlinesFrom, trimRight_cons]
    by_cases hreturn : c = '\r'
    · rw [if_pos hreturn, trimRight_cons, ← ih, hreturn]
      simp only [hnil, hfeedBlank, hreturnBlank]
      split_ifs <;> rfl
    rw [if_neg hreturn]
    by_cases hfeed : (decide (c = '\n') && afterReturn) = true
    · rw [if_pos hfeed, ← ih]
      obtain ⟨rfl, rfl⟩ : c = '\n' ∧ afterReturn = true := by simpa using hfeed
      split_ifs with hdrop
      · rw [hdrop.2, unifyNewlinesFrom, unifyNewlinesFrom]
      · rfl
    · rw [if_neg hfeed, trimRight_cons, ← ih]
      simp only [hnil]
      split_ifs with hdrop
      · rfl
      · rw [unifyNewlinesFrom, if_neg hreturn, if_neg hfeed]

/-- Trimming drops whole line ends. -/
theorem SameLines.trimChars {cs ds : List Char} (h : SameLines cs ds) :
    SameLines (trimChars cs) (trimChars ds) := by
  have hdrop := h.dropWhile_of_passes fun _ => isBlank_of_isLineEnd
  rw [SameLines, Text.trimChars, Text.trimChars, unifyNewlines, unifyNewlines,
    trimRight_unifyNewlinesFrom, trimRight_unifyNewlinesFrom]
  exact congrArg trimRight hdrop

/-! ## Reading in step -/

theorem exists_of_map_eq_ok {α β ε : Type} {x : Except ε α} {f : α → β} {b : β}
    (h : x.map f = .ok b) : ∃ a, x = .ok a ∧ f a = b := by
  cases x with
  | error e => cases h
  | ok a => exact ⟨a, rfl, Except.ok.inj h⟩

/-- What is read from one text is read alike from the other, and then the same lines remain, in less
than `bound` characters of the other. -/
def InStep {α ε : Type} (alike : α → α → Prop) (bound : Nat)
    (x y : Except ε (α × List Char)) : Prop :=
  ∀ a rest, x = .ok (a, rest) →
    ∃ a' rest', y = .ok (a', rest') ∧ alike a a' ∧ SameLines rest rest' ∧ rest'.length < bound

namespace InStep

variable {α β ε : Type} {alike : α → α → Prop} {alike' : β → β → Prop} {bound : Nat}
  {x y : Except ε (α × List Char)}

theorem error (e : ε) : InStep alike bound (.error e) y := nofun

theorem ok {a a' : α} {rest rest' : List Char} (ha : alike a a') (h : SameLines rest rest')
    (hbound : rest'.length < bound) :
    InStep (ε := ε) alike bound (.ok (a, rest)) (.ok (a', rest')) := by
  rintro _ _ ⟨⟩
  exact ⟨a', rest', rfl, ha, h, hbound⟩

theorem mono {bound' : Nat} (h : InStep alike bound x y) (hbound : bound ≤ bound') :
    InStep alike bound' x y := by
  intro a rest hx
  obtain ⟨a', rest', hy, ha, hrest, hlength⟩ := h a rest hx
  exact ⟨a', rest', hy, ha, hrest, Nat.lt_of_lt_of_le hlength hbound⟩

theorem length_lt {a : α} {rest : List Char} (h : InStep alike bound x x)
    (hx : x = .ok (a, rest)) : rest.length < bound := by
  obtain ⟨a', rest', hx', -, -, hlength⟩ := h a rest hx
  obtain ⟨-, rfl⟩ := Prod.mk.inj (Except.ok.inj (hx.symm.trans hx'))
  exact hlength

/-- What is made of a value that was read leaves what remains alone. -/
theorem map {f f' : α × List Char → β × List Char} (h : InStep alike bound x y)
    (hf : ∀ a a' rest rest', alike a a' → alike' (f (a, rest)).1 (f' (a', rest')).1)
    (hrest : ∀ r, (f r).2 = r.2) (hrest' : ∀ r, (f' r).2 = r.2) :
    InStep alike' bound (x.map f) (y.map f') := by
  rintro b rest hx
  cases x with
  | error e => cases hx
  | ok r =>
    obtain ⟨a', rest', rfl, ha, hlines, hlength⟩ := h r.1 r.2 rfl
    have hr : f r = (b, rest) := Except.ok.inj hx
    have hremains : r.2 = rest := by rw [← hrest r, hr]
    have hb : (f (r.1, r.2)).1 = b := congrArg Prod.fst hr
    refine ⟨(f' (a', rest')).1, rest', ?_, ?_, hremains ▸ hlines, hlength⟩
    · exact congrArg Except.ok (Prod.ext rfl (hrest' (a', rest')))
    · exact hb ▸ hf r.1 a' r.2 rest' ha

end InStep

end FlowBoard.Text
