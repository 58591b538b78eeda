import FlowBoard.Proofs.Json.Numerals
import Mathlib.Data.List.Basic

/-!
# The characters that are written

Whatever a value holds, it is written in printable ASCII and line feeds. Stand-ins make a difference
only where a value has some.
-/

namespace FlowBoard.Json

open Text (StandIns)

/-- Printable ASCII, or a line feed. -/
def isPlain (c : Char) : Bool := c = '\n' || (0x20 ≤ c.toNat && c.toNat < 0x7F)

def Plain (cs : List Char) : Prop := cs.all isPlain = true

theorem plain_iff {cs : List Char} : Plain cs ↔ ∀ c ∈ cs, isPlain c = true := List.all_eq_true

theorem plain_append {cs ds : List Char} : Plain (cs ++ ds) ↔ Plain cs ∧ Plain ds := by
  rw [Plain, List.all_append, Bool.and_eq_true]
  rfl

theorem plain_cons {c : Char} {cs : List Char} : Plain (c :: cs) ↔ isPlain c = true ∧ Plain cs := by
  rw [Plain, List.all_cons, Bool.and_eq_true]
  rfl

theorem plain_replicate {c : Char} (h : isPlain c = true) (k : Nat) :
    Plain (List.replicate k c) := by
  rw [plain_iff]
  intro d hd
  rwa [List.eq_of_mem_replicate hd]

/-! ## Numbers -/

theorem isPlain_of_isAsciiDigit {c : Char} (h : isAsciiDigit c = true) : isPlain c = true := by
  simp only [isAsciiDigit, Bool.and_eq_true, decide_eq_true_eq] at h
  simp only [isPlain, Bool.or_eq_true, Bool.and_eq_true, decide_eq_true_eq]
  omega

theorem plain_toDigits (n : Nat) : Plain (Nat.toDigits 10 n) :=
  plain_iff.mpr fun c hc => isPlain_of_isAsciiDigit (isAsciiDigit_toDigits n c hc)

theorem plain_exponentText (e : Int) : Plain (exponentText e) := by
  have hdigits := plain_toDigits e.natAbs
  rw [exponentText, plain_cons, decimalDigits]
  constructor
  · split_ifs
    · rfl
    · rfl
  · split_ifs
    · exact plain_cons.mpr ⟨rfl, hdigits⟩
    · exact hdigits

theorem plain_pointedText {ds : List Char} (h : Plain ds) (place : Int) :
    Plain (pointedText ds place) := by
  have htake (k : Nat) : Plain (ds.take k) :=
    plain_iff.mpr fun c hc => plain_iff.mp h c (List.mem_of_mem_take hc)
  have hdrop (k : Nat) : Plain (ds.drop k) :=
    plain_iff.mpr fun c hc => plain_iff.mp h c (List.mem_of_mem_drop hc)
  have hzeros (k : Nat) : Plain (List.replicate k '0') := plain_replicate rfl k
  have hexponent := plain_exponentText (place - 1)
  rw [pointedText]
  split_ifs
  · have hpoint : Plain (if (ds.drop 1).isEmpty then [] else '.' :: ds.drop 1) := by
      split_ifs
      · rfl
      · exact plain_cons.mpr ⟨rfl, hdrop 1⟩
    exact plain_append.mpr ⟨plain_append.mpr ⟨htake 1, hpoint⟩, plain_cons.mpr ⟨rfl, hexponent⟩⟩
  · exact plain_cons.mpr ⟨rfl, plain_cons.mpr ⟨rfl, plain_append.mpr ⟨hzeros _, h⟩⟩⟩
  · exact plain_append.mpr ⟨plain_append.mpr ⟨h, hzeros _⟩, rfl⟩
  · exact plain_append.mpr ⟨htake _, plain_cons.mpr ⟨rfl, hdrop _⟩⟩

theorem plain_magnitudeText {rank : Nat} (h : rank < finiteRanks) :
    Plain (magnitudeText rank) := by
  rw [magnitudeText]
  split_ifs with hzero
  · rfl
  · obtain ⟨c, ds, place, hdigits, -, hdigit, -⟩ :=
      Shortest.digits_roundsTo (Nat.pos_of_ne_zero hzero) h
    rw [hdigits]
    exact plain_pointedText (plain_iff.mpr fun d hd =>
      isPlain_of_isAsciiDigit (isAsciiDigit_of_isDigit (hdigit d hd))) place

theorem plain_numberText (n : Number) : Plain (numberText n) := by
  match n with
  | .whole k =>
    have hdigits := plain_toDigits k.natAbs
    change Plain (Number.wholeText k)
    rw [Number.wholeText]
    split_ifs
    · exact plain_cons.mpr ⟨rfl, hdigits⟩
    · exact hdigits
  | .binary (.finite x) =>
    have hmagnitude := plain_magnitudeText x.rank_lt
    change Plain (if x.negative then '-' :: magnitudeText x.rank else magnitudeText x.rank)
    split_ifs
    · exact plain_cons.mpr ⟨rfl, hmagnitude⟩
    · exact hmagnitude
  | .binary (.infinite true) => rfl
  | .binary (.infinite false) => rfl
  | .binary .nan => rfl

/-! ## Strings -/

theorem plain_hexDigits (width n : Nat) : Plain (Text.hexDigits width n) := by
  induction width generalizing n with
  | zero => rfl
  | succ width ih =>
    have hall : ∀ k < 16, isPlain (Text.hexDigit k) = true := by decide
    exact plain_append.mpr ⟨ih (n / 16), plain_cons.mpr ⟨hall _ (Nat.mod_lt n (by decide)), rfl⟩⟩

theorem plain_unitEscape (unit : Nat) : Plain (unitEscape unit) :=
  plain_cons.mpr ⟨rfl, plain_cons.mpr ⟨rfl, plain_hexDigits 4 unit⟩⟩

theorem plain_ownText (c : Char) : Plain (ownText c) := by
  simp only [ownText]
  split_ifs with _ _ _ _ _ _ _ hprint
  · rfl
  · rfl
  · rfl
  · rfl
  · rfl
  · rfl
  · rfl
  · exact plain_cons.mpr ⟨by rw [isPlain, hprint, Bool.or_true], rfl⟩
  · exact plain_unitEscape _
  · exact plain_append.mpr ⟨plain_unitEscape _, plain_unitEscape _⟩

variable (lone : StandIns)

theorem plain_charText (c : Char) : Plain (charText c lone) := by
  rw [charText]
  split
  · exact plain_unitEscape _
  · exact plain_ownText c

theorem plain_quoted (s : String) : Plain (quoted s lone) := by
  refine plain_cons.mpr ⟨rfl, plain_append.mpr ⟨?_, rfl⟩⟩
  rw [plain_iff]
  intro c hc
  obtain ⟨d, -, hd⟩ := List.mem_flatMap.mp hc
  exact plain_iff.mp (plain_charText lone d) c hd

/-! ## Values -/

theorem plain_margin (style : Style) : Plain style.margin := by
  cases style with
  | line => rfl
  | indented depth => exact plain_cons.mpr ⟨rfl, plain_replicate rfl _⟩

theorem plain_between (style : Style) : Plain style.between := by
  cases style with
  | line => rfl
  | indented depth => exact plain_cons.mpr ⟨rfl, plain_margin (.indented depth)⟩

theorem plain_member (k : String) {cs : List Char} (h : Plain cs) :
    Plain (quoted k lone ++ ':' :: ' ' :: cs) :=
  plain_append.mpr ⟨plain_quoted lone k, plain_cons.mpr ⟨rfl, plain_cons.mpr ⟨rfl, h⟩⟩⟩

mutual

/-- Every value is written in plain characters. -/
theorem plain_chars (style : Style) : ∀ v : Json, Plain (chars style v lone)
  | .null => rfl
  | .bool true => rfl
  | .bool false => rfl
  | .num n => plain_numberText n
  | .str s => plain_quoted lone s
  | .arr [] => rfl
  | .arr (x :: xs) => by
    have hclose : Plain (style.margin ++ [']']) := plain_append.mpr ⟨plain_margin style, rfl⟩
    have hrest := plain_append.mpr ⟨plain_itemChars style.deeper xs, hclose⟩
    have hbody := plain_append.mpr ⟨plain_chars style.deeper x, hrest⟩
    exact plain_cons.mpr ⟨rfl, plain_append.mpr ⟨plain_margin _, hbody⟩⟩
  | .obj [] => rfl
  | .obj ((k, x) :: fs) => by
    have hclose : Plain (style.margin ++ ['}']) := plain_append.mpr ⟨plain_margin style, rfl⟩
    have hrest := plain_append.mpr ⟨plain_fieldChars style.deeper fs, hclose⟩
    have hbody := plain_append.mpr ⟨plain_chars style.deeper x, hrest⟩
    exact plain_cons.mpr ⟨rfl, plain_append.mpr ⟨plain_margin _, plain_member lone k hbody⟩⟩

theorem plain_itemChars (style : Style) : ∀ items : List Json, Plain (itemChars style items lone)
  | [] => rfl
  | x :: xs =>
    plain_append.mpr ⟨plain_between style,
      plain_append.mpr ⟨plain_chars style x, plain_itemChars style xs⟩⟩

theorem plain_fieldChars (style : Style) :
    ∀ fields : List (String × Json), Plain (fieldChars style fields lone)
  | [] => rfl
  | (k, x) :: fs => by
    have hrest := plain_append.mpr ⟨plain_chars style x, plain_fieldChars style fs⟩
    exact plain_append.mpr ⟨plain_between style, plain_member lone k hrest⟩

end

/-! ## Values without stand-ins -/

section

variable {lone}

theorem charText_of_isStandIn {c : Char} (h : lone.isStandIn c = false) :
    charText c lone = charText c := by
  rw [StandIns.isStandIn, Option.isSome_eq_false_iff, Option.isNone_iff_eq_none] at h
  rw [charText, h]
  rfl

theorem quoted_of_any {s : String} (h : s.toList.any lone.isStandIn = false) :
    quoted s lone = quoted s := by
  rw [quoted, quoted, List.flatMap_congr]
  intro c hc
  exact charText_of_isStandIn (by simpa using List.any_eq_false.mp h c hc)

mutual

/-- A value without stand-ins is written as if there were none. -/
theorem chars_of_anyChar (style : Style) :
    ∀ {v : Json}, v.anyChar lone.isStandIn = false → chars style v lone = chars style v
  | .null, _ => rfl
  | .bool true, _ => rfl
  | .bool false, _ => rfl
  | .num _, _ => rfl
  | .str _, h => quoted_of_any h
  | .arr [], _ => rfl
  | .arr (x :: xs), h => by
    rw [anyChar, anyCharItems, Bool.or_eq_false_iff] at h
    rw [chars, chars, chars_of_anyChar style.deeper h.1, itemChars_of_anyChar style.deeper h.2]
  | .obj [], _ => rfl
  | .obj ((k, x) :: fs), h => by
    rw [anyChar, anyCharFields, Bool.or_eq_false_iff, Bool.or_eq_false_iff] at h
    rw [chars, chars, quoted_of_any h.1.1, chars_of_anyChar style.deeper h.1.2,
      fieldChars_of_anyChar style.deeper h.2]

theorem itemChars_of_anyChar (style : Style) : ∀ {items : List Json},
    anyCharItems lone.isStandIn items = false → itemChars style items lone = itemChars style items
  | [], _ => rfl
  | x :: xs, h => by
    rw [anyCharItems, Bool.or_eq_false_iff] at h
    rw [itemChars, itemChars, chars_of_anyChar style h.1, itemChars_of_anyChar style h.2]

theorem fieldChars_of_anyChar (style : Style) : ∀ {fields : List (String × Json)},
    anyCharFields lone.isStandIn fields = false →
      fieldChars style fields lone = fieldChars style fields
  | [], _ => rfl
  | (k, x) :: fs, h => by
    rw [anyCharFields, Bool.or_eq_false_iff, Bool.or_eq_false_iff] at h
    rw [fieldChars, fieldChars, quoted_of_any h.1.1, chars_of_anyChar style h.1.2,
      fieldChars_of_anyChar style h.2]

end

end

end FlowBoard.Json
