import FlowBoard.Proofs.Source.FileKey
import FlowBoard.Proofs.Text.StandIns
import FlowBoard.Source.Remote

/-!
# Requests that can be sent

Headers of ASCII texts are sent. The request for a board is sent to its address unless the key makes
the address too long, and the request to the structured endpoint if its address is one.
-/

namespace FlowBoard

namespace Http

def IsAscii (s : String) : Prop := ∀ c ∈ s.toList, c.toNat < 0x80

instance (s : String) : Decidable (IsAscii s) :=
  decidable_of_iff (s.toList.all (·.toNat < 0x80) = true) (by simp [IsAscii])

theorem IsAscii.append {s t : String} (hs : IsAscii s) (ht : IsAscii t) : IsAscii (s ++ t) := by
  intro c hc
  rw [String.toList_append] at hc
  exact (List.mem_append.mp hc).elim (hs c) (ht c)

theorem checkHeader_of_isAscii {value : String} (h : IsAscii value) :
    checkHeader value = .ok () := by
  have hrun : Text.firstRun? isForeign value.toList = none :=
    Text.firstRun?_eq_none_iff.mpr fun c hc => decide_eq_false (Nat.not_le.mpr (h c hc))
  rw [checkHeader, hrun]

theorem checkHeaders_of_isAscii {headers : List (String × String)}
    (h : ∀ header ∈ headers, IsAscii header.2) : checkHeaders headers = .ok () := by
  induction headers with
  | nil => rfl
  | cons header rest ih =>
    rw [checkHeaders, checkHeader_of_isAscii (h header List.mem_cons_self)]
    exact ih fun other ho => h other (List.mem_cons_of_mem header ho)

/-- A request with ASCII headers is sent if its address is one. -/
theorem Request.check_of_isAscii {request : Request}
    (h : ∀ header ∈ request.headers, IsAscii header.2) :
    request.check =
      ((Address.ofChars request.url.toList).mapError AddressFault.failure).map fun _ => () := by
  rw [Request.check, checkHeaders_of_isAscii h]
  cases Address.ofChars request.url.toList with
  | ok address => rfl
  | error fault => rfl

/-! ## Texts of replies -/

theorem kind_of_decode {set : Charset} {bs : Text.Octets} {e : Failure}
    (h : set.decode bs = .error e) : e.kind = .wrongType ∨ ∃ name, e.kind = .foreign name := by
  cases set <;> cases h
  case octets => exact .inr ⟨_, rfl⟩
  case rotated => exact .inl rfl
  case domain => exact .inr ⟨_, rfl⟩
  case undefined => exact .inr ⟨_, rfl⟩

/-- Only a codec refuses to give the text of a reply. -/
theorem Response.kind_of_text {r : Response} {foreign : Option Decoded} {e : Failure}
    (h : r.text foreign = .error e) : e.kind = .wrongType ∨ ∃ name, e.kind = .foreign name := by
  unfold Response.text at h
  split_ifs at h
  split at h
  · next result =>
    cases result with
    | ok s => cases h
    | error fault =>
      cases h
      exact .inr ⟨fault.name, rfl⟩
  · split at h
    · cases h
    · exact kind_of_decode h

theorem Response.isRecoverable_of_text {r : Response} {foreign : Option Decoded} {e : Failure}
    (h : r.text foreign = .error e) : e.isRecoverable = false := by
  rcases r.kind_of_text h with hkind | ⟨name, hkind⟩
  all_goals
    rw [Failure.isRecoverable, hkind]
    rfl

end Http

namespace Source

open Http

/-! ## The board service -/

theorem toList_boardRequest_url (key token : String) :
    (boardRequest boardAddress key token).url.toList =
      "https://api.figma.com/v1/files/".toList ++ key.toList := by
  have hbase : dropSlashes boardAddress ++ "/files/" = "https://api.figma.com/v1/files/" := by
    decide
  rw [boardRequest, hbase, String.toList_append]

theorem find?_isControl_boardRequest {key : String}
    (h : ∀ c ∈ key.toList, FileKey.isKeyChar c = true) :
    ("https://api.figma.com/v1/files/".toList ++ key.toList).find? Address.isControl = none := by
  have hbase : "https://api.figma.com/v1/files/".toList.find? Address.isControl = none := by decide
  rw [List.find?_append, hbase, Option.none_or, List.find?_eq_none]
  intro c hc
  have hn := FileKey.toNat_of_isKeyChar (h c hc)
  simp only [Address.isControl, Bool.or_eq_true, decide_eq_true_eq, beq_iff_eq]
  omega

theorem exists_ofParts_boardRequest (key : List Char) :
    ∃ address, Address.ofParts ("https://api.figma.com/v1/files/".toList ++ key) = .ok address :=
  ⟨_, rfl⟩

theorem check_boardRequest {key token : String}
    (hkey : ∀ c ∈ key.toList, FileKey.isKeyChar c = true) (htoken : IsAscii token) :
    (boardRequest boardAddress key token).check =
      if Address.maxLength < (boardRequest boardAddress key token).url.length
      then .error AddressFault.tooLong.failure else .ok () := by
  have hheaders : ∀ header ∈ (boardRequest boardAddress key token).headers, IsAscii header.2 := by
    intro header hh
    obtain rfl := List.mem_singleton.mp hh
    exact htoken
  obtain ⟨address, hparts⟩ := exists_ofParts_boardRequest key.toList
  rw [Request.check_of_isAscii hheaders, Address.ofChars, String.length_toList,
    toList_boardRequest_url, find?_isControl_boardRequest hkey]
  split_ifs
  · rfl
  · simp only [hparts]
    rfl

/-! ## The structured endpoint -/

theorem check_endpointRequest {settings : Settings}
    (htoken : ∀ token, settings.token = some token → IsAscii token) (url key token : String) :
    (endpointRequest settings url key token).check =
      ((Address.ofChars url.toList).mapError AddressFault.failure).map fun _ => () := by
  refine Request.check_of_isAscii fun header hh => ?_
  change header ∈ endpointHeaders settings at hh
  rw [endpointHeaders] at hh
  rcases List.mem_cons.mp hh with rfl | hauth
  · decide
  · cases hgiven : settings.token with
    | none => simp [hgiven] at hauth
    | some given =>
      simp only [hgiven] at hauth
      split_ifs at hauth
      · cases hauth
      · obtain rfl := List.mem_singleton.mp hauth
        exact IsAscii.append (by decide) (htoken given hgiven)

end Source

end FlowBoard
