import FlowBoard.Proofs.Json.Plain
import FlowBoard.Proofs.Json.StandIns
import FlowBoard.Proofs.Keyed

/-!
# Written values read back

A value that is written, on one line or over several, is read back as it was: every escape gives the
character that it stands for, numbers end where what follows them starts, and white space between
values is passed over. The value may hold no half of a surrogate pair, no key twice in one object
and no whole number of more digits than are read.
-/

namespace FlowBoard

namespace Json

open Text (StandIns isHighSurrogate isLowSurrogate)

/-! ## Strings -/

theorem hexValue?_hexDigit {k : Nat} (h : k < 16) : Text.hexValue? (Text.hexDigit k) = some k := by
  have hall : ∀ k < 16, Text.hexValue? (Text.hexDigit k) = some k := by decide
  exact hall k h

theorem exists_hexDigits {unit : Nat} (h : unit < 0x10000) :
    ∃ a b c d, Text.hexDigits 4 unit = [a, b, c, d] ∧ codeUnit? a b c d = some unit := by
  refine ⟨_, _, _, _, rfl, ?_⟩
  rw [codeUnit?, hexValue?_hexDigit (Nat.mod_lt _ (by decide)),
    hexValue?_hexDigit (Nat.mod_lt _ (by decide)), hexValue?_hexDigit (Nat.mod_lt _ (by decide)),
    hexValue?_hexDigit (Nat.mod_lt _ (by decide))]
  simp only [Option.some.injEq]
  omega

variable {lone : StandIns} {opening rest : List Char}

/-- A code unit that is no first half of a pair is read by itself. -/
theorem stringBody_unitEscape {unit : Nat} (h : unit < 0x10000)
    (hhigh : isHighSurrogate unit = false) (hrest : rest ≠ []) :
    stringBody lone opening (unitEscape unit ++ rest) =
      (stringBody lone opening rest).map (withChar (unitChar lone unit)) := by
  obtain ⟨a, b, c, d, hdigits, hunit⟩ := exists_hexDigits h
  obtain ⟨next, tail, rfl⟩ := List.exists_cons_of_ne_nil hrest
  rw [unitEscape, hdigits]
  change stringBody lone opening ('\\' :: 'u' :: a :: b :: c :: d :: next :: tail) = _
  by_cases hpair : ∃ e f g h next' tail',
      next = '\\' ∧ tail = 'u' :: e :: f :: g :: h :: next' :: tail'
  · obtain ⟨e, f, g, h, next', tail', rfl, rfl⟩ := hpair
    rw [stringBody, hunit]
    simp only [hhigh, Bool.false_eq_true, if_false]
  · rw [stringBody, hunit]
    intro e f g h next' tail' hnext htail
    exact hpair ⟨e, f, g, h, next', tail', hnext, htail⟩

theorem stringBody_pair {high low : Nat} (hhigh : isHighSurrogate high = true)
    (hlow : isLowSurrogate low = true) (hrest : rest ≠ []) :
    stringBody lone opening (unitEscape high ++ (unitEscape low ++ rest)) =
      (stringBody lone opening rest).map (withChar (joinSurrogates high low)) := by
  have hbounds : high < 0x10000 ∧ low < 0x10000 := by
    simp only [isHighSurrogate, isLowSurrogate, Bool.and_eq_true, decide_eq_true_eq] at hhigh hlow
    omega
  obtain ⟨a, b, c, d, hhighDigits, hhighUnit⟩ := exists_hexDigits hbounds.1
  obtain ⟨e, f, g, h, hlowDigits, hlowUnit⟩ := exists_hexDigits hbounds.2
  obtain ⟨next, tail, rfl⟩ := List.exists_cons_of_ne_nil hrest
  rw [unitEscape, unitEscape, hhighDigits, hlowDigits]
  change stringBody lone opening
    ('\\' :: 'u' :: a :: b :: c :: d :: '\\' :: 'u' :: e :: f :: g :: h :: next :: tail) = _
  rw [stringBody, hhighUnit, hlowUnit]
  simp only [hhigh, hlow, if_true]

theorem not_surrogate (c : Char) : c.toNat < 0xD800 ∨ 0xE000 ≤ c.toNat ∧ c.toNat < 0x110000 := by
  rcases c.valid with hlow | ⟨hhigh, hlast⟩
  · exact .inl hlow
  · exact .inr ⟨hhigh, hlast⟩

/-- Every character is read back from its text inside a string. -/
theorem stringBody_charText (c : Char) (hrest : rest ≠ []) :
    stringBody lone opening (charText c ++ rest) =
      (stringBody lone opening rest).map (withChar c) := by
  have hvalid := not_surrogate c
  have hc : Char.ofNat c.toNat = c := Char.ofNat_toNat c
  change stringBody lone opening (ownText c ++ rest) = _
  simp only [ownText]
  split_ifs with hquote hslash hfeed hreturn htab hback hform hprint hplane
  · subst hquote
    rfl
  · subst hslash
    rfl
  · subst hfeed
    rfl
  · subst hreturn
    rfl
  · subst htab
    rfl
  · rw [← hc, hback]
    rfl
  · rw [← hc, hform]
    rfl
  · simp only [Bool.and_eq_true, decide_eq_true_eq] at hprint
    rw [List.singleton_append, stringBody, if_neg (Nat.not_lt.mpr hprint.1)]
    · exact hquote
    · exact fun _ _ _ _ _ _ _ _ _ _ h _ => hslash h
    · exact fun _ _ _ _ _ _ h _ => hslash h
    · exact fun _ h _ => hslash h
    · exact fun h _ => hslash h
    · exact fun _ _ h _ => hslash h
  · have hhigh : isHighSurrogate c.toNat = false := by
      simp only [isHighSurrogate, Bool.and_eq_false_iff, decide_eq_false_iff_not]
      omega
    have hlow : isLowSurrogate c.toNat = false := by
      simp only [isLowSurrogate, Bool.and_eq_false_iff, decide_eq_false_iff_not]
      omega
    rw [stringBody_unitEscape hplane hhigh hrest]
    congr 1
    funext r
    rw [unitChar, hhigh, hlow, hc]
    rfl
  · have hhigh : isHighSurrogate (0xD800 + (c.toNat - 0x10000) / 0x400) = true := by
      simp only [isHighSurrogate, Bool.and_eq_true, decide_eq_true_eq]
      omega
    have hlow : isLowSurrogate (0xDC00 + (c.toNat - 0x10000) % 0x400) = true := by
      simp only [isLowSurrogate, Bool.and_eq_true, decide_eq_true_eq]
      omega
    have hjoined : joinSurrogates (0xD800 + (c.toNat - 0x10000) / 0x400)
        (0xDC00 + (c.toNat - 0x10000) % 0x400) = c := by
      have hnumber : 0x10000 + (0xD800 + (c.toNat - 0x10000) / 0x400 - 0xD800) * 0x400 +
          (0xDC00 + (c.toNat - 0x10000) % 0x400 - 0xDC00) = c.toNat := by omega
      rw [joinSurrogates, hnumber, hc]
    rw [List.append_assoc, stringBody_pair hhigh hlow hrest, hjoined]

theorem stringBody_chars (cs rest : List Char) :
    stringBody lone opening (cs.flatMap charText ++ '"' :: rest) = .ok (cs, rest) := by
  induction cs with
  | nil => rfl
  | cons c cs ih =>
    rw [List.flatMap_cons, List.append_assoc, stringBody_charText c (by simp), ih]
    rfl

theorem value_quoted (fuel : Nat) (s : String) (rest : List Char) :
    value lone (fuel + 1) (quoted s ++ rest) = .ok (.str s, rest) := by
  have hbody : stringBody lone (quoted s ++ rest) _ = _ := stringBody_chars s.toList rest
  have htext : quoted s ++ rest = '"' :: (s.toList.flatMap charText ++ '"' :: rest) := by
    simp [quoted]
  rw [htext] at hbody ⊢
  rw [value, hbody]
  exact congrArg (fun t => Except.ok (Json.str t, rest)) String.ofList_toList

example : quoted "\"😀" = "\"\\\"\\ud83d\\ude00\"".toList := by decide

/-! ## White space -/

def isSpace (c : Char) : Bool := c = ' ' || c = '\t' || c = '\n' || c = '\r'

theorem skipSpace_append {gap : List Char} (h : ∀ c ∈ gap, isSpace c = true) (cs : List Char) :
    skipSpace (gap ++ cs) = skipSpace cs := List.dropWhile_append_of_pos h

theorem skipSpace_cons {c : Char} (h : isSpace c = false) (cs : List Char) :
    skipSpace (c :: cs) = c :: cs := List.dropWhile_cons_of_neg (by simpa [isSpace] using h)

theorem skipSpace_quoted (s : String) (rest : List Char) :
    skipSpace (quoted s ++ rest) = quoted s ++ rest := skipSpace_cons rfl _

theorem isSpace_margin (style : Style) : ∀ c ∈ style.margin, isSpace c = true := by
  intro c hc
  cases style with
  | line => cases hc
  | indented depth =>
    rcases List.mem_cons.mp hc with rfl | hc
    · rfl
    · rw [List.eq_of_mem_replicate hc]
      rfl

theorem skipSpace_margin (style : Style) {c : Char} (h : isSpace c = false) (rest : List Char) :
    skipSpace (style.margin ++ c :: rest) = c :: rest := by
  rw [skipSpace_append (isSpace_margin style), skipSpace_cons h]

theorem exists_gap (style : Style) :
    ∃ gap, style.between = ',' :: gap ∧ ∀ c ∈ gap, isSpace c = true := by
  cases style with
  | line => exact ⟨[' '], rfl, List.forall_mem_singleton.mpr rfl⟩
  | indented depth => exact ⟨_, rfl, isSpace_margin (.indented depth)⟩

/-- White space ends a number, so it is enough to look at what comes after it. -/
theorem endsNumber_of_skipSpace {cs : List Char} (h : EndsNumber (skipSpace cs)) :
    EndsNumber cs := by
  cases cs with
  | nil => exact h
  | cons c cs =>
    by_cases hspace : isSpace c = true
    · intro d hd
      obtain rfl : c = d := Option.some.inj hd
      simp only [isSpace, Bool.or_eq_true, decide_eq_true_eq] at hspace
      rcases hspace with ((rfl | rfl) | rfl) | rfl
      all_goals decide
    · rwa [skipSpace_cons (by simpa using hspace)] at h

/-! ## Values -/

/-- What is read back when it was written. -/
inductive Readable : Json → Prop
  | null : Readable .null
  | bool (b : Bool) : Readable (.bool b)
  | num {n : Number} (h : n.Readable) : Readable (.num n)
  | str (s : String) : Readable (.str s)
  | arr {items : List Json} (h : ∀ v ∈ items, Readable v) : Readable (.arr items)
  | obj {fields : Fields} (hkeys : fields.keys.Nodup) (h : ∀ field ∈ fields, Readable field.2) :
    Readable (.obj fields)

/-- A first character of a number. -/
def startsNumber (c : Char) : Bool := isAsciiDigit c || c = '-' || c = 'I' || c = 'N'

theorem exists_start_of_signedNumber {cs : List Char} {r : Number × List Char}
    (h : signedNumber cs = .ok r) : ∃ c tail, cs = c :: tail ∧ startsNumber c = true := by
  unfold signedNumber at h
  split at h
  · exact ⟨_, _, rfl, rfl⟩
  · exact ⟨_, _, rfl, rfl⟩
  · exact ⟨_, _, rfl, rfl⟩
  · exact ⟨_, _, rfl, rfl⟩
  · obtain ⟨c, tail, rfl, hdigit⟩ := exists_digit_of_number h
    exact ⟨c, tail, rfl, by rw [startsNumber, hdigit]; rfl⟩

theorem value_of_startsNumber {c : Char} (h : startsNumber c = true) (fuel : Nat)
    (tail : List Char) :
    value lone (fuel + 1) (c :: tail) =
      (signedNumber (c :: tail)).map fun r => (.num r.1, r.2) := by
  have hne {d : Char} (hd : startsNumber d = false) : c ≠ d := by
    rintro rfl
    rw [hd] at h
    cases h
  rw [value]
  all_goals exact fun _ heq => hne rfl (List.cons.inj heq).1

theorem value_of_signedNumber {cs : List Char} {r : Number × List Char}
    (h : signedNumber cs = .ok r) (fuel : Nat) :
    value lone (fuel + 1) cs = .ok (.num r.1, r.2) := by
  obtain ⟨c, tail, rfl, hstart⟩ := exists_start_of_signedNumber h
  rw [value_of_startsNumber hstart, h]
  rfl

/-- The first character of a written value is neither white space nor a closing bracket. -/
def startsValue (c : Char) : Bool := !isSpace c && c != ']'

theorem startsValue_of_startsNumber {c : Char} (h : startsNumber c = true) :
    startsValue c = true := by
  by_contra hvalue
  simp only [startsValue, isSpace, Bool.and_eq_true, Bool.not_eq_true', Bool.or_eq_false_iff,
    decide_eq_false_iff_not, bne_iff_ne, not_and_or, not_not] at hvalue
  rcases hvalue with (((rfl | rfl) | rfl) | rfl) | rfl
  all_goals cases h

theorem exists_start_chars {v : Json} (h : v.Readable) (style : Style) :
    ∃ c tail, chars style v = c :: tail ∧ startsValue c = true := by
  cases h with
  | null => exact ⟨_, _, rfl, rfl⟩
  | bool b => cases b <;> exact ⟨_, _, rfl, rfl⟩
  | @num n h =>
    have hread : signedNumber (numberText n ++ []) = .ok (n, []) :=
      signedNumber_numberText h (by intro c hc; cases hc)
    rw [List.append_nil] at hread
    obtain ⟨c, tail, hcs, hstart⟩ := exists_start_of_signedNumber hread
    exact ⟨c, tail, hcs, startsValue_of_startsNumber hstart⟩
  | str s => exact ⟨_, _, rfl, rfl⟩
  | @arr items h => cases items <;> exact ⟨_, _, rfl, rfl⟩
  | @obj fields hkeys h => cases fields <;> exact ⟨_, _, rfl, rfl⟩

theorem skipSpace_chars {v : Json} (h : v.Readable) (style : Style) (rest : List Char) :
    skipSpace (chars style v ++ rest) = chars style v ++ rest := by
  obtain ⟨c, tail, hchars, hstart⟩ := exists_start_chars h style
  rw [hchars, List.cons_append, skipSpace_cons]
  simp only [startsValue, Bool.and_eq_true, Bool.not_eq_true'] at hstart
  exact hstart.1

theorem endsNumber_of_mark {c : Char} (h : c = ',' ∨ c = ']' ∨ c = '}') (cs : List Char) :
    EndsNumber (c :: cs) := by
  intro d hd
  obtain rfl : c = d := Option.some.inj hd
  rcases h with rfl | rfl | rfl
  all_goals decide

/-- The value is read back in every style, with any text after it that ends a number. -/
def Rereads (v : Json) : Prop :=
  ∀ (lone : StandIns) (style : Style) (fuel : Nat) (rest : List Char),
    (chars style v).length ≤ fuel → EndsNumber rest →
      value lone fuel (chars style v ++ rest) = .ok (v, rest)

variable {style : Style} {close : List Char}

/-- Items are read back up to the bracket that closes them. -/
theorem items_chars (lone : StandIns) {x : Json} {xs : List Json}
    (hread : ∀ v ∈ x :: xs, v.Readable ∧ v.Rereads)
    (hclose : skipSpace close = ']' :: rest) {fuel : Nat}
    (hfuel : (chars style x).length + (itemChars style xs).length < fuel) :
    items lone fuel (chars style x ++ (itemChars style xs ++ close)) = .ok (x :: xs, rest) := by
  induction xs generalizing x fuel with
  | nil =>
    obtain ⟨fuel, rfl⟩ : ∃ n, fuel = n + 1 := ⟨fuel - 1, by omega⟩
    have hends : EndsNumber close :=
      endsNumber_of_skipSpace (hclose ▸ endsNumber_of_mark (by simp) rest)
    have hx := (hread x List.mem_cons_self).2 lone style fuel close (by omega) hends
    rw [itemChars, List.nil_append, items, hx]
    simp only [hclose]
  | cons y ys ih =>
    obtain ⟨fuel, rfl⟩ : ∃ n, fuel = n + 1 := ⟨fuel - 1, by omega⟩
    obtain ⟨gap, hbetween, hgap⟩ := exists_gap style
    have hnext : itemChars style (y :: ys) ++ close =
        ',' :: (gap ++ (chars style y ++ (itemChars style ys ++ close))) := by
      simp [itemChars, hbetween]
    have hlength : (itemChars style (y :: ys)).length =
        gap.length + 1 + ((chars style y).length + (itemChars style ys).length) := by
      simp [itemChars, hbetween]
      omega
    have hx := (hread x List.mem_cons_self).2 lone style fuel _ (by omega)
      (endsNumber_of_mark (.inl rfl) (gap ++ (chars style y ++ (itemChars style ys ++ close))))
    have hrest : items lone fuel _ = _ :=
      ih (fun v hv => hread v (List.mem_cons_of_mem x hv)) (by omega)
    rw [hnext, items, hx]
    simp only [skipSpace_cons (c := ',') rfl]
    rw [skipSpace_append hgap, skipSpace_chars (hread y (by simp)).1, hrest]
    rfl

theorem not_mem_of_nodup_append {k : String} {x : Json} {fields fs : Fields}
    (h : (fields ++ (k, x) :: fs).keys.Nodup) : k ∉ fields.keys := by
  rw [Keyed.keys, List.map_append, List.nodup_append] at h
  exact fun hk => h.2.2 k hk k (by simp) rfl

/-- A new member is put last; a brace ends the members, and after a comma there are more. -/
theorem members_step {k : String} {x : Json} {fields : Fields} (hfresh : k ∉ fields.keys)
    {fuel : Nat} {cs tail : List Char} (hx : value lone fuel (skipSpace cs) = .ok (x, tail)) :
    (∀ rest, skipSpace tail = '}' :: rest →
      members lone (fuel + 1) fields (quoted k ++ ':' :: cs) = .ok (fields ++ [(k, x)], rest)) ∧
    ∀ rest, skipSpace tail = ',' :: rest →
      members lone (fuel + 1) fields (quoted k ++ ':' :: cs) =
        members lone fuel (fields ++ [(k, x)]) (skipSpace rest) := by
  have hbody : stringBody lone (quoted k ++ ':' :: cs) _ = _ :=
    stringBody_chars k.toList (':' :: cs)
  have htext : quoted k ++ ':' :: cs = '"' :: (k.toList.flatMap charText ++ '"' :: ':' :: cs) := by
    simp [quoted]
  have hkey : String.ofList k.toList = k := String.ofList_toList
  have hcolon : skipSpace (':' :: cs) = ':' :: cs := skipSpace_cons rfl cs
  rw [htext] at hbody ⊢
  rw [members, hbody]
  constructor
  · intro rest htail
    simp only [hcolon, hx, hkey, Keyed.put_of_not_mem hfresh, htail]
  · intro rest htail
    simp only [hcolon, hx, hkey, Keyed.put_of_not_mem hfresh, htail]

theorem value_after_colon (lone : StandIns) {x : Json} (hx : x.Readable) (hread : x.Rereads)
    {fuel : Nat} (hfuel : (chars style x).length ≤ fuel) {tail : List Char}
    (htail : EndsNumber tail) :
    value lone fuel (skipSpace (' ' :: (chars style x ++ tail))) = .ok (x, tail) := by
  have hspace : ∀ c ∈ [' '], isSpace c = true := List.forall_mem_singleton.mpr rfl
  rw [← List.singleton_append, skipSpace_append hspace, skipSpace_chars hx]
  exact hread lone style fuel tail hfuel htail

/-- Members are read back after those read before, up to the brace that closes them. -/
theorem members_chars (lone : StandIns) {k : String} {x : Json} {fs fields : Fields}
    (hread : ∀ field ∈ (k, x) :: fs, field.2.Readable ∧ field.2.Rereads)
    (hkeys : (fields ++ (k, x) :: fs).keys.Nodup) (hclose : skipSpace close = '}' :: rest)
    {fuel : Nat} (hfuel : (chars style x).length + (fieldChars style fs).length < fuel) :
    members lone fuel fields
        (quoted k ++ ':' :: ' ' :: (chars style x ++ (fieldChars style fs ++ close))) =
      .ok (fields ++ (k, x) :: fs, rest) := by
  induction fs generalizing k x fields fuel with
  | nil =>
    obtain ⟨fuel, rfl⟩ : ∃ n, fuel = n + 1 := ⟨fuel - 1, by omega⟩
    obtain ⟨hx, hrereads⟩ : x.Readable ∧ x.Rereads := hread (k, x) List.mem_cons_self
    have hlong : (chars style x).length ≤ fuel := by omega
    have hends : EndsNumber close :=
      endsNumber_of_skipSpace (hclose ▸ endsNumber_of_mark (by simp) rest)
    have hvalue := value_after_colon lone hx hrereads hlong hends
    rw [fieldChars, List.nil_append]
    exact (members_step (not_mem_of_nodup_append hkeys) hvalue).1 rest hclose
  | cons field fs ih =>
    obtain ⟨fuel, rfl⟩ : ∃ n, fuel = n + 1 := ⟨fuel - 1, by omega⟩
    obtain ⟨hx, hrereads⟩ : x.Readable ∧ x.Rereads := hread (k, x) List.mem_cons_self
    have hlong : (chars style x).length ≤ fuel := by omega
    obtain ⟨gap, hbetween, hgap⟩ := exists_gap style
    have hnext : fieldChars style (field :: fs) ++ close =
        ',' :: (gap ++ (quoted field.1 ++ ':' :: ' ' ::
          (chars style field.2 ++ (fieldChars style fs ++ close)))) := by
      simp [fieldChars, hbetween]
    have hlength : (chars style field.2).length + (fieldChars style fs).length <
        (fieldChars style (field :: fs)).length := by
      simp [fieldChars, hbetween]
      omega
    have hends : EndsNumber (fieldChars style (field :: fs) ++ close) :=
      hnext ▸ endsNumber_of_mark (.inl rfl) _
    have hvalue := value_after_colon lone hx hrereads hlong hends
    have hrest : members lone fuel (fields ++ [(k, x)]) _ = _ :=
      ih (fun f hf => hread f (List.mem_cons_of_mem _ hf)) (by simpa using hkeys) (by omega)
    have hcomma : skipSpace (fieldChars style (field :: fs) ++ close) = ',' :: (gap ++
        (quoted field.1 ++ ':' :: ' ' ::
          (chars style field.2 ++ (fieldChars style fs ++ close)))) := by
      rw [hnext, skipSpace_cons rfl]
    rw [(members_step (not_mem_of_nodup_append hkeys) hvalue).2 _ hcomma, skipSpace_append hgap,
      skipSpace_quoted, hrest]
    simp

theorem value_bracket {fuel : Nat} {cs : List Char} {vs : List Json}
    (hstart : ∀ c ∈ (skipSpace cs).head?, c ≠ ']')
    (h : items lone fuel (skipSpace cs) = .ok (vs, rest)) :
    value lone (fuel + 1) ('[' :: cs) = .ok (.arr vs, rest) := by
  rw [value]
  split
  · next heq =>
    rw [heq] at hstart
    exact absurd rfl (hstart ']' rfl)
  · rw [h]
    rfl

theorem value_brace {fuel : Nat} {cs : List Char} {fields : Fields}
    (hstart : ∀ c ∈ (skipSpace cs).head?, c ≠ '}')
    (h : members lone fuel [] (skipSpace cs) = .ok (fields, rest)) :
    value lone (fuel + 1) ('{' :: cs) = .ok (.obj fields, rest) := by
  rw [value]
  split
  · next heq =>
    rw [heq] at hstart
    exact absurd rfl (hstart '}' rfl)
  · rw [h]
    rfl

/-- A written value is not empty, so that there is fuel for it. -/
theorem rereads_of_succ {v : Json} (h : v.Readable)
    (hread : ∀ (lone : StandIns) (style : Style) (fuel : Nat) (rest : List Char),
      (chars style v).length ≤ fuel + 1 → EndsNumber rest →
        value lone (fuel + 1) (chars style v ++ rest) = .ok (v, rest)) : v.Rereads := by
  intro lone style fuel rest hfuel hrest
  obtain ⟨c, tail, hchars, -⟩ := exists_start_chars h style
  cases fuel with
  | zero =>
    rw [hchars] at hfuel
    cases hfuel
  | succ fuel => exact hread lone style fuel rest hfuel hrest

theorem rereads_arr {items : List Json} (h : ∀ v ∈ items, v.Readable ∧ v.Rereads) :
    (Json.arr items).Rereads := by
  refine rereads_of_succ (.arr fun v hv => (h v hv).1) fun lone style fuel rest hfuel _ => ?_
  cases items with
  | nil => rfl
  | cons x xs =>
    have hx := (h x List.mem_cons_self).1
    obtain ⟨c, tail, hchars, hstart⟩ := exists_start_chars hx style.deeper
    have hclose : skipSpace (style.margin ++ ']' :: rest) = ']' :: rest :=
      skipSpace_margin style rfl rest
    have hlength : (chars style.deeper x).length + (itemChars style.deeper xs).length < fuel := by
      simp only [chars, List.length_cons, List.length_append, List.length_nil] at hfuel
      omega
    have hitems := items_chars lone h hclose hlength
    have hskip : skipSpace (style.deeper.margin ++ (chars style.deeper x ++
        (itemChars style.deeper xs ++ (style.margin ++ ']' :: rest)))) =
        chars style.deeper x ++ (itemChars style.deeper xs ++ (style.margin ++ ']' :: rest)) := by
      rw [skipSpace_append (isSpace_margin _), skipSpace_chars hx]
    rw [← hskip] at hitems
    have hread := value_bracket (fun d hd => ?_) hitems
    · simpa [chars] using hread
    · rw [hskip, hchars] at hd
      obtain rfl : c = d := Option.some.inj hd
      rintro rfl
      cases hstart

theorem rereads_obj {fields : Fields} (hkeys : fields.keys.Nodup)
    (h : ∀ field ∈ fields, field.2.Readable ∧ field.2.Rereads) : (Json.obj fields).Rereads := by
  refine rereads_of_succ (.obj hkeys fun f hf => (h f hf).1) fun lone style fuel rest hfuel _ => ?_
  cases fields with
  | nil => rfl
  | cons field fs =>
    have hclose : skipSpace (style.margin ++ '}' :: rest) = '}' :: rest :=
      skipSpace_margin style rfl rest
    have hlength : (chars style.deeper field.2).length + (fieldChars style.deeper fs).length <
        fuel := by
      simp only [chars, List.length_cons, List.length_append, List.length_nil] at hfuel
      omega
    have hnodup : (Keyed.keys ([] ++ field :: fs)).Nodup := hkeys
    have hmembers := members_chars lone h hnodup hclose hlength
    have hskip : skipSpace (style.deeper.margin ++ (quoted field.1 ++ ':' :: ' ' ::
        (chars style.deeper field.2 ++ (fieldChars style.deeper fs ++
          (style.margin ++ '}' :: rest))))) = quoted field.1 ++ ':' :: ' ' ::
        (chars style.deeper field.2 ++ (fieldChars style.deeper fs ++
          (style.margin ++ '}' :: rest))) := by
      rw [skipSpace_append (isSpace_margin _), skipSpace_quoted]
    rw [← hskip] at hmembers
    have hread := value_brace (fun d hd => ?_) hmembers
    · simpa [chars] using hread
    · rw [hskip] at hd
      obtain rfl : '"' = d := Option.some.inj hd
      decide

/-- Every readable value is read back. -/
theorem Readable.rereads {v : Json} (h : v.Readable) : v.Rereads := by
  induction h with
  | null => exact rereads_of_succ .null fun _ _ _ _ _ _ => rfl
  | bool b => exact rereads_of_succ (.bool b) fun _ _ _ _ _ _ => by cases b <;> rfl
  | num h =>
    exact rereads_of_succ (.num h) fun _ _ fuel _ _ hrest =>
      value_of_signedNumber (signedNumber_numberText h hrest) fuel
  | str s => exact rereads_of_succ (.str s) fun _ _ fuel rest _ _ => value_quoted fuel s rest
  | arr h ih => exact rereads_arr fun v hv => ⟨h v hv, ih v hv⟩
  | obj hkeys h ih => exact rereads_obj hkeys fun field hf => ⟨h field hf, ih field hf⟩

theorem Readable.readWith_chars {v : Json} (h : v.Readable) (lone : StandIns) (style : Style)
    {rest : List Char} (hrest : ∀ c ∈ rest, isSpace c = true) :
    readWith lone (chars style v ++ rest) = .ok v := by
  have hblank : skipSpace rest = [] := by
    have hskip := skipSpace_append hrest []
    rwa [List.append_nil] at hskip
  have hends : EndsNumber rest := endsNumber_of_skipSpace (hblank ▸ fun c hc => by cases hc)
  have hvalue := h.rereads lone style (2 * (chars style v ++ rest).length + 2) rest
    (by rw [List.length_append]; omega) hends
  rw [readWith, skipSpace_chars h, hvalue]
  simp only [hblank]

/-- A text that was written needs no stand-ins. -/
theorem Readable.standIns_chars {v : Json} (h : v.Readable) (style : Style) {rest : List Char}
    (hrest : ∀ c ∈ rest, isSpace c = true) : standIns (chars style v ++ rest) = {} :=
  standInsFor_eq_empty fun lone => h.readWith_chars lone style hrest

/-- A readable value that is written, on one line or over several, is read back. -/
theorem Readable.readChars_chars {v : Json} (h : v.Readable) (style : Style) {rest : List Char}
    (hrest : ∀ c ∈ rest, isSpace c = true) : readChars (chars style v ++ rest) = .ok v := by
  obtain ⟨c, tail, hchars, -⟩ := exists_start_chars h style
  have hmark : ((chars style v ++ rest).head? == some (Char.ofNat 0xFEFF)) = false := by
    have hplain := plain_chars {} style v
    rw [hchars, plain_cons] at hplain
    rw [hchars, List.cons_append, List.head?_cons, beq_eq_false_iff_ne, ne_eq, Option.some.injEq]
    rintro rfl
    cases hplain.1
  rw [readChars, hmark, if_neg Bool.false_ne_true]
  exact h.readWith_chars _ style hrest

end Json

end FlowBoard
