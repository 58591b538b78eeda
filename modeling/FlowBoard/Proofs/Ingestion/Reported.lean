import FlowBoard.Proofs.Ingestion.Hints
import FlowBoard.Proofs.Json.LongNumbers
import FlowBoard.Proofs.Machine.Outcome

/-!
# Bad payloads

A text that gives no document is refused with a failure of the payload, whatever is wrong with it,
but for one case: the reader of JSON comes to a whole number with more digits than are read. That
failure is no failure of the payload and passes both the local sources and the structured endpoint
by, under every hint and whatever else the text holds.
-/

namespace FlowBoard

def Failure.IsPayload (e : Failure) : Prop := ∃ path message, e = ⟨.payload path, message⟩

theorem Failure.isPayload_payload (message : String) : (Failure.payload message).IsPayload :=
  ⟨none, message, rfl⟩

/-- A value, or a failure of the payload. -/
abbrev Reported {α : Type} : Except Failure α → Prop := Outcome (fun _ => True) Failure.IsPayload

namespace Payload

/-- The text is no markup, and as JSON it is read up to a whole number of `n` digits, which are too
many. -/
structure StopsAt (text : String) (n : Nat) : Prop where
  json : isMarkup (Text.trimChars text.toList) = false
  long : Json.readChars (Text.trimChars text.toList) = .error (.numberTooLong n)

/-- What a number of too many digits makes of a payload. -/
def tooLong (n : Nat) : Failure := ⟨.wrongValue, (Text.NumeralError.tooLong n).message ""⟩

theorem not_isPayload_tooLong (n : Nat) : ¬ (tooLong n).IsPayload := by
  rintro ⟨path, message, h⟩
  cases h

/-- The ways in which a text is refused. -/
def Refuses (text : String) (e : Failure) : Prop :=
  e.IsPayload ∨ ∃ n, StopsAt text n ∧ e = tooLong n

variable {text label fileKey : String} {hint : FormatHint} {n : Nat}

theorem StopsAt.hasOverlong (h : StopsAt text n) :
    Json.HasOverlong n (Text.trimChars text.toList) :=
  Json.hasOverlong_of_readChars h.long

/-! ## Decoding -/

theorem refuses_jsonFailure {e : Json.ReadError} (malformed : String → String)
    (hjson : isMarkup (Text.trimChars text.toList) = false)
    (hread : Json.readChars (Text.trimChars text.toList) = .error e) :
    Refuses text (jsonFailure malformed (Text.trimChars text.toList) e) := by
  cases e with
  | malformed fault left => exact .inl (Failure.isPayload_payload _)
  | numberTooLong n => exact .inr ⟨n, ⟨hjson, hread⟩, rfl⟩

theorem outcome_read (text label : String) (hint : FormatHint) :
    Outcome (fun _ => True) (Refuses text) (read text label hint) := by
  unfold read
  dsimp only
  split_ifs with hempty hmarkup htree
  · exact .inl (Failure.isPayload_payload _)
  · exact .inl (Failure.isPayload_payload _)
  · split
    · trivial
    · exact .inl (Failure.isPayload_payload _)
  · split
    · trivial
    · next e hread => exact refuses_jsonFailure _ ((Bool.not_eq_true _).mp hmarkup) hread

theorem outcome_decodeReply (text : String) :
    Outcome (fun _ => True) (Refuses text) (decodeReply text) := by
  unfold decodeReply
  dsimp only
  split_ifs with hmarkup
  · split
    · trivial
    · exact .inl (Failure.isPayload_payload _)
  · cases hread : Json.readChars (Text.trimChars text.toList) with
    | ok v => trivial
    | error e => exact refuses_jsonFailure _ ((Bool.not_eq_true _).mp hmarkup) hread

/-- A text that stops the reader is not empty. -/
theorem read_of_stopsAt (h : StopsAt text n) (label : String) (hint : FormatHint) :
    read text label hint = .error (tooLong n) := by
  have hsome : (Text.trimChars text.toList).isEmpty = false := by
    by_contra hempty
    have hread := readChars_of_isEmpty ((Bool.not_eq_false _).mp hempty)
    rw [h.long] at hread
    cases hread
  rw [read, if_neg (by rw [hsome]; decide), if_neg (by rw [h.json]; decide), h.long]
  rfl

theorem decodeReply_of_stopsAt (h : StopsAt text n) : decodeReply text = .error (tooLong n) := by
  rw [decodeReply, if_neg (by rw [h.json]; decide), h.long]
  rfl

/-! ## Checks -/

theorem reported_form (p : Payload) (hint : FormatHint) : Reported (p.form hint) := by
  unfold form
  split_ifs
  · exact Failure.isPayload_payload _
  · trivial
  · split
    · trivial
    · exact Failure.isPayload_payload _
    · trivial
    · exact Failure.isPayload_payload _
    · trivial
    · exact Failure.isPayload_payload _

theorem reported_checkTree (v : Json) (root : String) : Reported (checkTree v root) := by
  rw [checkTree]
  cases TreeFile.ofJson v with
  | ok file => trivial
  | error violation => exact ⟨_, _, rfl⟩

theorem reported_checkPageList (v : Json) (root : String) : Reported (checkPageList v root) := by
  rw [checkPageList]
  cases Wire.PageList.ofJson v with
  | ok list => trivial
  | error violation => exact ⟨_, _, rfl⟩

theorem reported_ingest (p : Payload) (fileKey : String) (hint : FormatHint)
    (lone : Text.StandIns) : Reported (p.ingest fileKey hint lone) := by
  refine (reported_form p hint).bind fun form _ => ?_
  cases form with
  | tree => exact (reported_checkTree p.data treeRoot).bind fun _ _ => trivial
  | structured => exact (reported_checkPageList p.data pageListRoot).bind fun _ _ => trivial

/-! ## Texts -/

/-- A failure that a check reports is one of those in which a text is refused. -/
theorem refuses_of_reported {α : Type} {x : Except Failure α} (h : Reported x) :
    Outcome (fun _ => True) (Refuses text) x :=
  h.imp (fun _ _ => trivial) fun _ => .inl

theorem outcome_ingestText (text label fileKey : String) (hint : FormatHint) :
    Outcome (fun _ => True) (Refuses text) (ingestText text label fileKey hint) :=
  (outcome_read text label hint).bind fun p _ =>
    refuses_of_reported (reported_ingest p fileKey hint _)

theorem outcome_replyPages (text : String) :
    Outcome (fun _ => True) (Refuses text)
      (do checkPageList (← decodeReply text) pageListRoot) :=
  (outcome_decodeReply text).bind fun v _ => refuses_of_reported (reported_checkPageList v _)

theorem ingestText_of_stopsAt (h : StopsAt text n) (label fileKey : String) (hint : FormatHint) :
    ingestText text label fileKey hint = .error (tooLong n) := by
  rw [ingestText, read_of_stopsAt h]
  rfl

theorem replyPages_of_stopsAt (h : StopsAt text n) :
    (do checkPageList (← decodeReply text) pageListRoot) = .error (tooLong n) := by
  rw [decodeReply_of_stopsAt h]
  rfl

/-- What is refused in these ways, and always so where a number stops the reader, is reported
unless one does. -/
theorem reported_iff {α : Type} {x : Except Failure α}
    (hrefuses : Outcome (fun _ => True) (Refuses text) x)
    (hstops : ∀ n, StopsAt text n → x = .error (tooLong n)) :
    Reported x ↔ ∀ n, ¬ StopsAt text n := by
  constructor
  · intro hreported n hn
    rw [hstops n hn] at hreported
    exact not_isPayload_tooLong n hreported
  · intro hnone
    refine hrefuses.imp (fun _ _ => trivial) fun e he => ?_
    rcases he with hpayload | ⟨n, hn, -⟩
    · exact hpayload
    · exact absurd hn (hnone n)

/-- A bad text is reported as a bad payload, by the local sources under every hint and by the
structured endpoint, unless a number in it has more digits than are read: then all of them fail in
the same way, which is none of a payload. -/
theorem bad_text_reported_iff (text label fileKey : String) (hint : FormatHint) :
    (Reported (ingestText text label fileKey hint) ↔ ∀ n, ¬ StopsAt text n) ∧
      (Reported (do checkPageList (← decodeReply text) pageListRoot) ↔ ∀ n, ¬ StopsAt text n) ∧
      ∀ n, StopsAt text n →
        Json.HasOverlong n (Text.trimChars text.toList) ∧
        ingestText text label fileKey hint = .error (tooLong n) ∧
        (do checkPageList (← decodeReply text) pageListRoot) = .error (tooLong n) := by
  refine ⟨?_, ?_, fun n h => ?_⟩
  · exact reported_iff (outcome_ingestText text label fileKey hint)
      fun n h => ingestText_of_stopsAt h label fileKey hint
  · exact reported_iff (outcome_replyPages text) fun n h => replyPages_of_stopsAt h
  · exact ⟨h.hasOverlong, ingestText_of_stopsAt h label fileKey hint, replyPages_of_stopsAt h⟩

/-! ## Texts of digits -/

theorem isBlank_of_isAsciiDigit {c : Char} (h : Json.isAsciiDigit c = true) :
    Text.isBlank c = false := by
  simp only [Json.isAsciiDigit, Bool.and_eq_true, decide_eq_true_eq] at h
  simp only [Text.isBlank, Bool.or_eq_false_iff, Bool.and_eq_false_iff, decide_eq_false_iff_not,
    beq_eq_false_iff_ne]
  omega

/-- A text that is one number with too many digits stops the reader. -/
theorem stopsAt_of_digits {ds : List Char} (h : Json.IsWhole ds)
    (hlong : Text.digitLimit < ds.length) : StopsAt (String.ofList ds) ds.length := by
  have htrim : Text.trimChars (String.ofList ds).toList = ds := by
    rw [String.toList_ofList]
    exact Text.trimChars_eq_self fun c hc => isBlank_of_isAsciiDigit (h.digits c hc)
  constructor
  · rw [htrim, isMarkup, beq_eq_false_iff_ne]
    intro hhead
    exact absurd (h.digits '<' (List.mem_of_mem_head? hhead)) (by decide)
  · rw [htrim]
    exact Json.readChars_of_digits h hlong

/-- One digit more than are read, and no document and no failure of a payload comes of it. -/
theorem nines_unreported :
    ¬ Reported (ingestText (String.ofList (List.replicate 4301 '9')) "stdin" "stdin" .auto) ∧
      ¬ Reported (do
        checkPageList (← decodeReply (String.ofList (List.replicate 4301 '9'))) pageListRoot) := by
  have hwhole : Json.IsWhole (List.replicate 4301 '9') := by
    refine ⟨?_, .inr ⟨'9', by simp, by decide⟩⟩
    intro c hc
    rw [List.eq_of_mem_replicate hc]
    rfl
  have hstops := stopsAt_of_digits hwhole (by rw [List.length_replicate]; decide)
  rw [ingestText_of_stopsAt hstops, replyPages_of_stopsAt hstops]
  exact ⟨not_isPayload_tooLong _, not_isPayload_tooLong _⟩

end Payload

end FlowBoard
