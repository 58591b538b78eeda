import FlowBoard.Text.Utf8
import Mathlib.Tactic.SplitIfs

/-!
# UTF-8 read back

The octets of a character are one piece, whatever comes after them. So the octets of a text are
decoded to that text, strictly and leniently, and no two texts have the same octets.
-/

namespace FlowBoard.Text

theorem toNat_octet {n : Nat} (h : n < 0x100) : (octet n).toNat = n := by
  rw [octet, UInt8.toNat_ofNat']
  exact Nat.mod_eq_of_lt h

/-! ## First octets -/

theorem lead?_of_two {k : Nat} (hlow : 2 ≤ k) (hhigh : k < 0x20) :
    lead? (0xC0 + k) = some (k, 1, 0x80, 0xBF) := by
  have hall : ∀ k < 0x1E, lead? (0xC0 + (2 + k)) = some (2 + k, 1, 0x80, 0xBF) := by decide
  obtain ⟨k, rfl⟩ := Nat.exists_eq_add_of_le hlow
  exact hall k (by omega)

/-- A character is not coded in more octets than it needs, and half a pair of UTF-16 not at all. -/
theorem lead?_of_three {k : Nat} (h : k < 0x10) :
    lead? (0xE0 + k) =
      some (k, 2, if k = 0 then 0xA0 else 0x80, if k = 0xD then 0x9F else 0xBF) := by
  have hall : ∀ k < 0x10, lead? (0xE0 + k) =
      some (k, 2, if k = 0 then 0xA0 else 0x80, if k = 0xD then 0x9F else 0xBF) := by decide
  exact hall k h

theorem lead?_of_four {k : Nat} (h : k < 5) :
    lead? (0xF0 + k) =
      some (k, 3, if k = 0 then 0x90 else 0x80, if k = 4 then 0x8F else 0xBF) := by
  have hall : ∀ k < 5, lead? (0xF0 + k) =
      some (k, 3, if k = 0 then 0x90 else 0x80, if k = 4 then 0x8F else 0xBF) := by decide
  exact hall k h

/-! ## Characters -/

theorem continuation_octet {low high k : Nat} (hlow : low ≤ 0x80 + k) (hhigh : 0x80 + k ≤ high)
    (hk : k < 0x40) (value taken count : Nat) (rest : Octets) :
    continuation value low high taken (count + 1) (octet (0x80 + k) :: rest) =
      continuation (value * 0x40 + k) 0x80 0xBF (taken + 1) count rest := by
  rw [continuation, toNat_octet (by omega), if_pos (by simp [hlow, hhigh]), Nat.add_sub_cancel_left]

/-- An octet that follows the second. -/
theorem continuation_tail {k : Nat} (hk : k < 0x40) (value taken count : Nat) (rest : Octets) :
    continuation value 0x80 0xBF taken (count + 1) (octet (0x80 + k) :: rest) =
      continuation (value * 0x40 + k) 0x80 0xBF (taken + 1) count rest :=
  continuation_octet (by omega) (by omega) hk value taken count rest

theorem firstPiece_of_lead {n value count low high : Nat} (hn : n < 0x100) (hhigh : 0x80 ≤ n)
    (h : lead? n = some (value, count, low, high)) (rest : Octets) :
    firstPiece (octet n) rest = continuation value low high 1 count rest := by
  rw [firstPiece, toNat_octet hn, if_neg (Nat.not_lt.mpr hhigh), h]

/-- The octets of a character, with anything after them, start with the piece that it is. -/
theorem exists_encodeChar (c : Char) : ∃ b tail, encodeChar c = b :: tail ∧
    ∀ rest, firstPiece b (tail ++ rest) = (.char c, tail.length + 1) := by
  have hvalid : c.toNat < 0xD800 ∨ 0xDFFF < c.toNat ∧ c.toNat < 0x110000 := c.valid
  have hc : Char.ofNat c.toNat = c := Char.ofNat_toNat c
  rw [encodeChar]
  split_ifs with hone htwo hthree
  · refine ⟨_, _, rfl, fun rest => ?_⟩
    rw [firstPiece, toNat_octet (by omega), if_pos hone, hc]
    rfl
  · refine ⟨_, _, rfl, fun rest => ?_⟩
    rw [firstPiece_of_lead (by omega) (by omega) (lead?_of_two (by omega) (by omega)),
      List.singleton_append, continuation_tail (Nat.mod_lt _ (by decide)), continuation]
    have hvalue : c.toNat / 0x40 * 0x40 + c.toNat % 0x40 = c.toNat := by omega
    rw [hvalue, hc]
    rfl
  · refine ⟨_, _, rfl, fun rest => ?_⟩
    rw [firstPiece_of_lead (by omega) (by omega) (lead?_of_three (by omega)),
      List.cons_append, List.singleton_append,
      continuation_octet (by split_ifs <;> omega) (by split_ifs <;> omega)
        (Nat.mod_lt _ (by decide)),
      continuation_tail (Nat.mod_lt _ (by decide)), continuation]
    have hvalue : (c.toNat / 0x1000 * 0x40 + c.toNat / 0x40 % 0x40) * 0x40 + c.toNat % 0x40 =
        c.toNat := by omega
    rw [hvalue, hc]
    rfl
  · refine ⟨_, _, rfl, fun rest => ?_⟩
    rw [firstPiece_of_lead (by omega) (by omega) (lead?_of_four (by omega)),
      List.cons_append, List.cons_append, List.singleton_append,
      continuation_octet (by split_ifs <;> omega) (by split_ifs <;> omega)
        (Nat.mod_lt _ (by decide)),
      continuation_tail (Nat.mod_lt _ (by decide)), continuation_tail (Nat.mod_lt _ (by decide)),
      continuation]
    have hvalue : ((c.toNat / 0x40000 * 0x40 + c.toNat / 0x1000 % 0x40) * 0x40 +
        c.toNat / 0x40 % 0x40) * 0x40 + c.toNat % 0x40 = c.toNat := by omega
    rw [hvalue, hc]
    rfl

/-! ## Texts -/

/-- The pieces of coded characters are these characters. -/
theorem pieces_encodeChars (cs : List Char) {fuel : Nat}
    (hfuel : (cs.flatMap encodeChar).length ≤ fuel) (position : Nat) :
    (pieces position fuel (cs.flatMap encodeChar)).map Prod.fst = cs.map .char := by
  induction cs generalizing fuel position with
  | nil => cases fuel <;> rfl
  | cons c cs ih =>
    obtain ⟨b, tail, hencode, hpiece⟩ := exists_encodeChar c
    rw [List.flatMap_cons, hencode, List.length_append, List.length_cons] at hfuel
    obtain ⟨fuel, rfl⟩ := Nat.exists_eq_add_one_of_ne_zero (by omega : fuel ≠ 0)
    rw [List.flatMap_cons, hencode, List.cons_append, pieces, hpiece]
    simp only [List.map_cons, List.drop_succ_cons, List.drop_left]
    have hrest : (cs.flatMap encodeChar).length ≤ fuel := by omega
    exact congrArg (.char c :: ·) (ih hrest _)

theorem map_decodePieces_encode (s : String) :
    (decodePieces (encode s)).map Prod.fst = s.toList.map .char :=
  pieces_encodeChars s.toList (Nat.le_refl _) 0

theorem piecesText_of_chars {ps : List (Utf8Piece × Nat × Octets)} {cs : List Char}
    (h : ps.map Prod.fst = cs.map .char) : piecesText ps = .ok cs := by
  induction ps generalizing cs with
  | nil =>
    obtain rfl := List.map_eq_nil_iff.mp h.symm
    rfl
  | cons p ps ih =>
    cases cs with
    | nil => cases h
    | cons c cs =>
      obtain ⟨piece, place⟩ := p
      obtain ⟨rfl, hrest⟩ := List.cons.inj h
      rw [piecesText, ih hrest]
      rfl

/-- A text is decoded from its octets. -/
theorem decode_encode (s : String) : decode (encode s) = .ok s := by
  rw [decode, piecesText_of_chars (map_decodePieces_encode s)]
  exact congrArg Except.ok String.ofList_toList

theorem decodeLenient_encode (s : String) : decodeLenient (encode s) = s := by
  have hpieces := map_decodePieces_encode s
  rw [decodeLenient]
  refine Eq.trans (congrArg String.ofList ?_) String.ofList_toList
  generalize decodePieces (encode s) = ps at hpieces ⊢
  generalize s.toList = cs at hpieces ⊢
  induction ps generalizing cs with
  | nil =>
    obtain rfl := List.map_eq_nil_iff.mp hpieces.symm
    rfl
  | cons p ps ih =>
    cases cs with
    | nil => cases hpieces
    | cons c cs =>
      obtain ⟨piece, place⟩ := p
      obtain ⟨rfl, hrest⟩ := List.cons.inj hpieces
      exact congrArg (c :: ·) (ih cs hrest)

theorem encode_injective {s t : String} (h : encode s = encode t) : s = t := by
  have hdecode := decode_encode s
  rw [h, decode_encode] at hdecode
  exact (Except.ok.inj hdecode).symm

example : encode "é😀" = [0xC3, 0xA9, 0xF0, 0x9F, 0x98, 0x80] := by decide

end FlowBoard.Text
