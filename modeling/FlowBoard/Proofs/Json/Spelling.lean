import FlowBoard.Json.Reader
import FlowBoard.Proofs.Text.LineEnds

/-!
# How strings are spelled

A string is read from the characters up to its closing quote, whatever follows them, and no line
ends among these. `Spells` puts such characters together from the end, an escape at a time; every
string that is read is spelled so.
-/

namespace FlowBoard.Json

open Text (SameLines InStep isLineEnd isLineEnd_eq_false_iff isLineEnd_of_any eq_of_isLineEnd
  exists_of_map_eq_ok StandIns isHighSurrogate isLowSurrogate)

variable {lone : StandIns} {cs ds rest : List Char}

/-- The characters of a string and its closing quote, in which no line ends. -/
structure Spells (lone : StandIns) (word t : List Char) : Prop where
  plain : ∀ c ∈ word, isLineEnd c = false
  read : ∀ opening rest, stringBody lone opening (word ++ rest) = .ok (t, rest)

theorem isLineEnd_of_codeUnit? {a b c d : Char} {unit : Nat} (h : codeUnit? a b c d = some unit) :
    ∀ x ∈ [a, b, c, d], isLineEnd x = false := by
  have hdigit : ∀ x, isLineEnd x = true → Text.hexValue? x = none := by
    intro x hx
    rcases eq_of_isLineEnd hx with rfl | rfl <;> rfl
  intro x hx
  by_contra hend
  have hnone := hdigit x (by simpa using hend)
  simp only [List.mem_cons, List.not_mem_nil, or_false] at hx
  rcases hx with rfl | rfl | rfl | rfl
  all_goals simp [codeUnit?, hnone] at h

/-- An escape of digits that are none is refused. -/
theorem stringBody_badUnit {a b c d : Char} (h : codeUnit? a b c d = none) (opening : List Char)
    (next : Char) (tail : List Char) (r : List Char × List Char) :
    stringBody lone opening ('\\' :: 'u' :: a :: b :: c :: d :: next :: tail) ≠ .ok r := by
  intro hread
  by_cases hpair : ∃ e f g k next' tail',
      next = '\\' ∧ tail = 'u' :: e :: f :: g :: k :: next' :: tail'
  · obtain ⟨e, f, g, k, next', tail', rfl, rfl⟩ := hpair
    rw [stringBody, h] at hread
    cases hread
  · rw [stringBody, h] at hread
    · cases hread
    · exact fun e f g k next' tail' hnext htail =>
        hpair ⟨e, f, g, k, next', tail', hnext, htail⟩

namespace Spells

variable {word t : List Char}

theorem quote : Spells lone ['"'] [] :=
  ⟨isLineEnd_of_any rfl, fun _ _ => rfl⟩

theorem exists_cons (h : Spells lone word t) : ∃ c tail, word = c :: tail := by
  cases word with
  | nil => cases h.read [] []
  | cons c tail => exact ⟨c, tail, rfl⟩

/-- An escape is not broken off. -/
theorem exists_unit (h : Spells lone ('\\' :: 'u' :: word) t) :
    ∃ e f g k next tail, word = e :: f :: g :: k :: next :: tail := by
  have hread := h.read [] []
  rw [List.append_nil] at hread
  match word with
  | e :: f :: g :: k :: next :: tail => exact ⟨e, f, g, k, next, tail, rfl⟩
  | [] => cases hread
  | [_] => cases hread
  | [_, _] => cases hread
  | [_, _, _] => cases hread
  | [_, _, _, _] => cases hread

theorem char {c : Char} (hquote : c ≠ '"') (hslash : c ≠ '\\') (hc : ¬ c.toNat < 0x20)
    (h : Spells lone word t) : Spells lone (c :: word) (c :: t) := by
  refine ⟨?_, fun opening rest => ?_⟩
  · intro d hd
    rcases List.mem_cons.mp hd with rfl | hd
    · rw [isLineEnd_eq_false_iff]
      constructor
      · rintro rfl
        exact hc (by decide)
      · rintro rfl
        exact hc (by decide)
    · exact h.plain d hd
  · rw [List.cons_append, stringBody, if_neg hc, h.read]
    · rfl
    · exact hquote
    · exact fun _ _ _ _ _ _ _ _ _ _ heq _ => hslash heq
    · exact fun _ _ _ _ _ _ heq _ => hslash heq
    · exact fun _ heq _ => hslash heq
    · exact fun heq _ => hslash heq
    · exact fun _ _ heq _ => hslash heq

theorem escape {c x : Char} (hc : c ≠ 'u') (hx : escaped? c = some x) (h : Spells lone word t) :
    Spells lone ('\\' :: c :: word) (x :: t) := by
  refine ⟨?_, fun opening rest => ?_⟩
  · intro d hd
    rcases List.mem_cons.mp hd with rfl | hd
    · rfl
    rcases List.mem_cons.mp hd with rfl | hd
    · rw [isLineEnd_eq_false_iff]
      constructor
      · rintro rfl
        exact nomatch hx
      · rintro rfl
        exact nomatch hx
    · exact h.plain d hd
  · rw [List.cons_append, List.cons_append, stringBody, hx]
    · simp only [h.read]
      rfl
    · exact fun _ _ _ _ _ _ _ _ _ _ heq _ => hc heq
    · exact fun _ _ _ _ _ _ heq _ => hc heq
    · exact hc

theorem plain_unit {a b c d : Char} {unit : Nat} (hunit : codeUnit? a b c d = some unit)
    (h : ∀ x ∈ word, isLineEnd x = false) :
    ∀ x ∈ '\\' :: 'u' :: a :: b :: c :: d :: word, isLineEnd x = false := by
  have hdigits := isLineEnd_of_codeUnit? hunit
  have hopen : ∀ x ∈ ['\\', 'u'], isLineEnd x = false := isLineEnd_of_any rfl
  intro x hx
  rw [show '\\' :: 'u' :: a :: b :: c :: d :: word = ['\\', 'u'] ++ ([a, b, c, d] ++ word) from rfl,
    List.mem_append, List.mem_append] at hx
  rcases hx with hx | hx | hx
  · exact hopen x hx
  · exact hdigits x hx
  · exact h x hx

theorem pair {a b c d e f g k : Char} {first second : Nat}
    (hfirst : codeUnit? a b c d = some first) (hhigh : isHighSurrogate first = true)
    (hsecond : codeUnit? e f g k = some second) (hlow : isLowSurrogate second = true)
    (h : Spells lone word t) :
    Spells lone ('\\' :: 'u' :: a :: b :: c :: d :: '\\' :: 'u' :: e :: f :: g :: k :: word)
      (joinSurrogates first second :: t) := by
  refine ⟨plain_unit hfirst (plain_unit hsecond h.plain), fun opening rest => ?_⟩
  obtain ⟨next, tail, rfl⟩ := h.exists_cons
  have hread := h.read opening rest
  rw [List.cons_append] at hread
  simp only [List.cons_append]
  rw [stringBody, hfirst]
  simp only [if_pos hhigh, hsecond, if_pos hlow, hread]
  rfl

/-- The second half of a pair stands in front. -/
def StartsLow (word : List Char) : Prop :=
  ∃ e f g k second tail, word = '\\' :: 'u' :: e :: f :: g :: k :: tail ∧
    codeUnit? e f g k = some second ∧ isLowSurrogate second = true

/-- A code unit of its own, which is no first half of a pair. -/
theorem unit {a b c d : Char} {first : Nat} (hfirst : codeUnit? a b c d = some first)
    (hpair : isHighSurrogate first = true → ¬ StartsLow word) (h : Spells lone word t) :
    Spells lone ('\\' :: 'u' :: a :: b :: c :: d :: word) (unitChar lone first :: t) := by
  refine ⟨plain_unit hfirst h.plain, fun opening rest => ?_⟩
  obtain ⟨next, tail, rfl⟩ := h.exists_cons
  have hread := h.read opening rest
  rw [List.cons_append] at hread
  simp only [List.cons_append]
  by_cases hescape : ∃ more, next :: tail = '\\' :: 'u' :: more
  · obtain ⟨more, hmore⟩ := hescape
    obtain ⟨rfl, rfl⟩ := List.cons.inj hmore
    obtain ⟨e, f, g, k, next, tail, rfl⟩ := h.exists_unit
    simp only [List.cons_append] at hread ⊢
    rw [stringBody, hfirst]
    simp only
    by_cases hhigh : isHighSurrogate first = true
    · rw [if_pos hhigh]
      cases hsecond : codeUnit? e f g k with
      | none => exact absurd hread (stringBody_badUnit hsecond _ _ _ _)
      | some second =>
        have hlow : ¬ isLowSurrogate second = true := fun hlow =>
          hpair hhigh ⟨e, f, g, k, second, _, rfl, hsecond, hlow⟩
        simp only [if_neg hlow, hread]
        rfl
    · rw [if_neg hhigh, hread]
      rfl
  · rw [stringBody, hfirst]
    · simp only [hread]
      rfl
    · rintro e f g k next' tail' rfl htail
      cases tail with
      | nil =>
        have hbroken := h.read [] []
        cases hbroken
      | cons x tail =>
        obtain ⟨rfl, -⟩ := List.cons.inj htail
        exact hescape ⟨tail, rfl⟩

end Spells

/-- A string that was read is spelled by the characters that were taken. -/
theorem exists_spells {opening t : List Char}
    (h : stringBody lone opening cs = .ok (t, rest)) :
    ∃ word, cs = word ++ rest ∧ Spells lone word t := by
  fun_induction stringBody lone opening cs generalizing t rest with
  | case1 => cases h
  | case2 after =>
    obtain ⟨rfl, rfl⟩ := Prod.mk.inj (Except.ok.inj h)
    exact ⟨['"'], rfl, .quote⟩
  | case3 => cases h
  | case4 => cases h
  | case5 a b c d e f g k next tail first hfirst hhigh second hsecond hlow ih =>
    obtain ⟨⟨t, after⟩, hread, heq⟩ := exists_of_map_eq_ok h
    obtain ⟨rfl, rfl⟩ := Prod.mk.inj heq
    obtain ⟨word, hword, hspells⟩ := ih hread
    exact ⟨_, by rw [hword]; rfl, hspells.pair hfirst hhigh hsecond hlow⟩
  | case6 a b c d e f g k next tail first hfirst hhigh second hsecond hlow ih =>
    obtain ⟨⟨t, after⟩, hread, heq⟩ := exists_of_map_eq_ok h
    obtain ⟨rfl, rfl⟩ := Prod.mk.inj heq
    obtain ⟨word, hword, hspells⟩ := ih hread
    refine ⟨_, by rw [hword]; rfl, hspells.unit hfirst fun _ => ?_⟩
    rintro ⟨e', f', g', k', second', tail', rfl, hsecond', hlow'⟩
    simp only [List.cons_append, List.cons.injEq, true_and] at hword
    obtain ⟨rfl, rfl, rfl, rfl, -⟩ := hword
    obtain rfl : second = second' := Option.some.inj (hsecond.symm.trans hsecond')
    exact hlow hlow'
  | case7 a b c d e f g k next tail first hfirst hhigh ih =>
    obtain ⟨⟨t, after⟩, hread, heq⟩ := exists_of_map_eq_ok h
    obtain ⟨rfl, rfl⟩ := Prod.mk.inj heq
    obtain ⟨word, hword, hspells⟩ := ih hread
    exact ⟨_, by rw [hword]; rfl, hspells.unit hfirst fun h => absurd h hhigh⟩
  | case8 => cases h
  | case9 a b c d next tail hescape first hfirst ih =>
    obtain ⟨⟨t, after⟩, hread, heq⟩ := exists_of_map_eq_ok h
    obtain ⟨rfl, rfl⟩ := Prod.mk.inj heq
    obtain ⟨word, hword, hspells⟩ := ih hread
    refine ⟨_, by rw [hword]; rfl, hspells.unit hfirst fun _ => ?_⟩
    rintro ⟨e, f, g, k, second, word, rfl, -, -⟩
    obtain ⟨e', f', g', k', next', tail', hmore⟩ := hspells.exists_unit
    rw [hmore] at hword
    obtain ⟨hnext, htail⟩ := List.cons.inj hword
    exact hescape e' f' g' k' next' (tail' ++ after) hnext htail
  | case10 => cases h
  | case11 => cases h
  | case12 => cases h
  | case13 c tail _ _ hc x hx ih =>
    obtain ⟨⟨t, after⟩, hread, heq⟩ := exists_of_map_eq_ok h
    obtain ⟨rfl, rfl⟩ := Prod.mk.inj heq
    obtain ⟨word, rfl, hspells⟩ := ih hread
    exact ⟨_, rfl, hspells.escape hc hx⟩
  | case14 => cases h
  | case15 c tail hquote _ _ _ hlast hslash hc ih =>
    obtain ⟨⟨t, after⟩, hread, heq⟩ := exists_of_map_eq_ok h
    obtain ⟨rfl, rfl⟩ := Prod.mk.inj heq
    obtain ⟨word, rfl, hspells⟩ := ih hread
    have hplain : c ≠ '\\' := by
      rintro rfl
      obtain ⟨d, tail, rfl⟩ := hspells.exists_cons
      exact hslash d _ rfl rfl
    exact ⟨_, rfl, hspells.char hquote hplain hc⟩

theorem stringBody_inStep (opening opening' : List Char) (h : SameLines cs ds) :
    InStep Eq ds.length (stringBody lone opening cs) (stringBody lone opening' ds) := by
  intro t rest hread
  obtain ⟨word, rfl, hspells⟩ := exists_spells hread
  obtain ⟨rest', rfl, hrest⟩ := h.of_append hspells.plain
  obtain ⟨c, tail, rfl⟩ := hspells.exists_cons
  refine ⟨t, rest', hspells.read opening' rest', rfl, hrest, ?_⟩
  simp only [List.length_append, List.length_cons]
  omega

end FlowBoard.Json
