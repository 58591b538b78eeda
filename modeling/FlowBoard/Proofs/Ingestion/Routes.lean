import FlowBoard.Proofs.Ingestion.Fallback
import FlowBoard.Proofs.Ingestion.Hints
import FlowBoard.Proofs.Json.LineEnds
import FlowBoard.Proofs.Markup.LineEnds
import FlowBoard.Proofs.Text.Utf8

/-!
# The ways of a page list

A page list comes as a reply of the structured endpoint, from a file or on standard input. The
local ways unify line ends before they decode, and refuse a tree file; the endpoint does neither.
A text that is no tree file still comes to the same pages whichever way it takes, since what is
decoded from a text depends on its lines only.
-/

namespace FlowBoard

open Text (SameLines)

/-! ## Decoding -/

namespace Payload

variable {text text' : String}

theorem isMarkup_eq_of_sameLines {cs ds : List Char} (h : SameLines cs ds) :
    isMarkup cs = isMarkup ds := by
  rw [Bool.eq_iff_iff, isMarkup, isMarkup, beq_iff_eq, beq_iff_eq]
  exact h.head?_eq_some_iff rfl

theorem Decodes.of_sameLines {p : Payload} (hp : Decodes text p)
    (h : SameLines text.toList text'.toList) : Decodes text' p := by
  have hfirst' := isMarkup_eq_of_sameLines h.trimChars
  cases hp with
  | markup hfirst hread => exact .markup (hfirst' ▸ hfirst) (Canvas.read_eq_ok h hread)
  | json hfirst hread => exact .json (hfirst' ▸ hfirst) (Json.readChars_eq_ok h.trimChars hread)

/-- A text is JSON that looks like a tree file. -/
def IsTreeText (text : String) : Prop :=
  isMarkup (Text.trimChars text.toList) = false ∧
    ∃ data, Json.readChars (Text.trimChars text.toList) = .ok data ∧ looksLikeTree data = true

theorem Decodes.ownForm_eq_structured {p : Payload} (hp : Decodes text p)
    (htree : ¬ IsTreeText text) : p.ownForm = .structured := by
  cases hp with
  | markup hfirst hread => exact ownForm_of_markup rfl
  | @json data hfirst hread =>
    rw [ownForm, if_neg]
    rintro ⟨-, hlooks⟩
    exact htree ⟨hfirst, data, hread, hlooks⟩

/-- A text is decoded and checked as this page list. -/
def ListsPages (text : String) (list : Wire.PageList) : Prop :=
  ∃ p, Decodes text p ∧ checkPageList p.data pageListRoot = .ok list

theorem ListsPages.unique {list list' : Wire.PageList} (h : ListsPages text list)
    (h' : ListsPages text list') : list = list' := by
  obtain ⟨p, hp, hcheck⟩ := h
  obtain ⟨q, hq, hcheck'⟩ := h'
  rw [hp.unique hq] at hcheck
  exact Except.ok.inj (hcheck.symm.trans hcheck')

theorem standIns_of_sameLines (h : SameLines text.toList text'.toList) :
    standIns text = standIns text' := by
  simp only [standIns, isMarkup_eq_of_sameLines h.trimChars, Json.standIns_eq h.trimChars]

/-- A source gives the page list of a text, under a key, or fails if the text has none. -/
def Gives (text fileKey : String) (result : Except Failure Ingested) : Prop :=
  ∀ i, result = .ok i ↔
    ∃ list, ListsPages text list ∧ i = .structured fileKey list (standIns text)

/-- The local ways give the page list, with line ends unified or not. -/
theorem gives_ingestText (htree : ¬ IsTreeText text) (h : SameLines text.toList text'.toList)
    (label fileKey : String) :
    Gives text fileKey (ingestText text' label fileKey .structured) := by
  intro i
  rw [show FormatHint.structured = WireForm.structured.hint from rfl, ingestText_hint_eq_ok_iff]
  constructor
  · rintro ⟨p, hp, -, hform, hholds⟩
    cases i with
    | tree key file => cases hform
    | structured key list lone =>
      obtain ⟨rfl, hcheck, rfl⟩ := hholds
      exact ⟨list, ⟨p, hp.of_sameLines h.symm, hcheck⟩, by rw [standIns_of_sameLines h]⟩
  · rintro ⟨list, ⟨p, hp, hcheck⟩, rfl⟩
    exact ⟨p, hp.of_sameLines h, hp.ownForm_eq_structured htree, rfl, rfl, hcheck,
      standIns_of_sameLines h⟩

end Payload

theorem decodeReply_eq_ok_iff {text : String} {v : Json} :
    decodeReply text = .ok v ↔ ∃ p, Payload.Decodes text p ∧ p.data = v := by
  rw [decodeReply]
  by_cases hmarkup : Payload.isMarkup (Text.trimChars text.toList) = true
  · rw [if_pos hmarkup]
    constructor
    · intro h
      cases hread : Canvas.read text with
      | error e =>
        rw [hread] at h
        cases h
      | ok list =>
        rw [hread] at h
        exact ⟨_, .markup hmarkup hread, Except.ok.inj h⟩
    · rintro ⟨p, hp, rfl⟩
      obtain ⟨list, hread, rfl⟩ := (Payload.decodes_iff_of_isMarkup hmarkup).mp hp
      rw [hread]
  · have hjson := (Bool.not_eq_true _).mp hmarkup
    rw [if_neg hmarkup]
    constructor
    · intro h
      cases hread : Json.readChars (Text.trimChars text.toList) with
      | error e =>
        rw [hread] at h
        cases h
      | ok data =>
        rw [hread] at h
        exact ⟨_, .json hjson hread, Except.ok.inj h⟩
    · rintro ⟨p, hp, rfl⟩
      obtain ⟨data, hread, rfl⟩ := (Payload.decodes_iff_of_not_isMarkup hjson).mp hp
      rw [hread]
      rfl

/-! ## Contents -/

/-- A text is read from the octets that it is coded in, with unified line ends. -/
theorem Contents.read_of_octets {c : Contents} {text : String} (h : c.octets = Text.encode text) :
    c.read = .ok (String.ofList (Text.unifyNewlines text.toList)) := by
  cases c with
  | text s => rw [Text.encode_injective h, Contents.read]
  | raw octets =>
    obtain rfl : octets = Text.encode text := h
    rw [Contents.read, Text.decode_encode]

theorem Http.Response.text_of_octets {r : Http.Response} {text : String}
    (hcharset : Http.charset ((r.header? "Content-Type").getD "") = .utf8)
    (h : r.body.octets = Text.encode text) : r.text = .ok text := by
  unfold Http.Response.text
  cases hbody : r.body with
  | text s =>
    rw [hbody] at h
    obtain rfl := Text.encode_injective h
    simp only [Contents.isEmpty, hcharset]
    split_ifs with hempty
    · rw [String.isEmpty_iff.mp hempty]
    · rfl
  | raw octets =>
    rw [hbody] at h
    obtain rfl : octets = Text.encode text := h
    simp only [Contents.isEmpty, hcharset]
    split_ifs with hempty
    · have hnone : Text.encode text = Text.encode "" := List.isEmpty_iff.mp hempty
      rw [Text.encode_injective hnone]
    · exact congrArg Except.ok (Text.decodeLenient_encode text)

theorem Run.readText_of_contents {path : Path} {c : Contents} {text : String} {m : Machine}
    (hfile : m.files.contents path = .ok c) (h : c.octets = Text.encode text) :
    Run.readText path m = (.ok (String.ofList (Text.unifyNewlines text.toList)), m) := by
  have hget : (get : Run Machine) m = (.ok m, m) := rfl
  have hread : m.files.readText path = .ok (String.ofList (Text.unifyNewlines text.toList)) := by
    rw [FileSystem.readText, hfile]
    exact Contents.read_of_octets h
  rw [Run.readText, Run.bind_of_ok hget, hread]
  rfl

/-! ## Sources -/

namespace Source

open Http Payload

variable {text : String} {settings : Settings} {request : SourceRequest} {m : Machine}

theorem gives_pageListOfReply {r : Response} (hsuccess : r.isSuccess = true)
    (htext : r.text = .ok text) (fileKey : String) :
    Gives text fileKey ((pageListOfReply settings (.answered r)).map fun list =>
      .structured fileKey list (pageListStandIns (.answered r))) := by
  have hlist (list : Wire.PageList) :
      pageListOfReply settings (.answered r) = .ok list ↔ ListsPages text list := by
    rw [pageListOfReply, htext]
    change (if r.isSuccess then _ else _) = _ ↔ _
    rw [if_pos hsuccess]
    constructor
    · intro h
      cases hdecode : decodeReply text with
      | error e =>
        rw [hdecode] at h
        cases h
      | ok v =>
        rw [hdecode] at h
        obtain ⟨p, hp, rfl⟩ := decodeReply_eq_ok_iff.mp hdecode
        exact ⟨p, hp, h⟩
    · rintro ⟨p, hp, hcheck⟩
      rw [decodeReply_eq_ok_iff.mpr ⟨p, hp, rfl⟩]
      exact hcheck
  have hlone : pageListStandIns (.answered r) = standIns text := by
    rw [pageListStandIns, htext]
    rfl
  rw [hlone]
  intro i
  cases hreply : pageListOfReply settings (.answered r) with
  | error e =>
    constructor
    · intro h
      cases h
    · rintro ⟨list, h, -⟩
      have hok := hreply.symm.trans ((hlist list).mpr h)
      cases hok
  | ok list =>
    have h := (hlist list).mp hreply
    constructor
    · rintro ⟨⟩
      exact ⟨list, h, rfl⟩
    · rintro ⟨list', h', rfl⟩
      rw [h.unique h']
      rfl

theorem gives_ingestStructured {url key : String} {address : Address} {r : Response}
    (hurl : settings.endpoint? = some url) (haddress : Address.ofChars url.toList = .ok address)
    (hkey : FileKey.extract request.input = .ok key)
    (htoken : ∀ token, settings.token = some token → IsAscii token)
    (hseconds : settings.hasSeconds = true) (hreply : m.nextReply = .answered r)
    (hsuccess : r.isSuccess = true) (htext : r.text = .ok text) :
    Gives text key (ingestStructured settings request m).1 := by
  have hcheck : (endpointRequest settings url key request.token).check = .ok () := by
    rw [check_endpointRequest htoken, haddress]
    rfl
  rw [ingestStructured_of_sent hurl hkey hseconds hcheck, hreply]
  exact gives_pageListOfReply hsuccess htext key

theorem gives_ingestFile {c : Contents} (htree : ¬ IsTreeText text)
    (hhint : request.hint = .structured) (hinput : (Text.trim request.input).isEmpty = false)
    (hfile : m.files.contents (Path.ofString (Text.trim request.input)) = .ok c)
    (hoctets : c.octets = Text.encode text) :
    ∃ key, Gives text key (ingestFile request m).1 := by
  refine ⟨FileKey.ofPath (Text.trim request.input), ?_⟩
  have hread (label : String) : readInput label (Path.ofString (Text.trim request.input)) m =
      (.ok (String.ofList (Text.unifyNewlines text.toList)), m) := by
    rw [readInput, Run.bind_of_ok (Run.attempt_eq (Run.readText_of_contents hfile hoctets))]
    rfl
  rw [ingestFile]
  simp only [hinput, Bool.false_eq_true, if_false]
  rw [Run.bind_of_ok (hread _), hhint]
  refine gives_ingestText htree ?_ _ _
  rw [String.toList_ofList]
  exact .unify _

theorem gives_ingestStdin (htree : ¬ IsTreeText text) (hhint : request.hint = .structured)
    (hstdin : m.stdin = some text) : Gives text "stdin" (ingestStdin request m).1 := by
  rw [ingestStdin, Run.bind_of_ok (Run.readStdin_of_some hstdin), hhint]
  refine gives_ingestText htree ?_ "stdin" "stdin"
  rw [String.toList_ofList]
  exact .unify _

end Source

/-! ## Runs -/

namespace Pipeline

open Source Http

variable {text : String}

/-- A text, coded in UTF-8, comes to a run as its page list. -/
inductive Arrives (text : String) (settings : Settings) (request : SourceRequest) (m : Machine) :
    Mode → Prop
  | reply {url key : String} {address : Address} {r : Response}
      (endpoint : settings.endpoint? = some url) (valid : Address.ofChars url.toList = .ok address)
      (file : FileKey.extract request.input = .ok key)
      (token : ∀ token, settings.token = some token → IsAscii token)
      (seconds : settings.hasSeconds = true) (answer : m.nextReply = .answered r)
      (status : r.status = 200)
      (charset : Http.charset ((r.header? "Content-Type").getD "") = .utf8)
      (body : r.body.octets = Text.encode text) : Arrives text settings request m .structured
  | file {c : Contents} (format : request.format = some FormatHint.structured.name)
      (path : (Text.trim request.input).isEmpty = false)
      (contents : m.files.contents (Path.ofString (Text.trim request.input)) = .ok c)
      (octets : c.octets = Text.encode text) : Arrives text settings request m .file
  | stdin (format : request.format = some FormatHint.structured.name)
      (input : m.stdin = some text) : Arrives text settings request m .stdin

/-- Runs show the same diagram, or neither shows any. -/
inductive SameDiagram : Except Failure PipelineResult → Except Failure PipelineResult → Prop
  | shown {a b : PipelineResult} (fileName : a.document.fileName = b.document.fileName)
      (boards : a.document.pages = b.document.pages) (pages : a.pages = b.pages)
      (standIns : a.standIns = b.standIns) : SameDiagram (.ok a) (.ok b)
  | failed (e e' : Failure) : SameDiagram (.error e) (.error e')

theorem fst_run_of_single {address : String} {settings : Settings} {request : SourceRequest}
    {mode : Mode} {kind : String} {r : Run Ingested} (hauto : (mode == .auto) = false)
    (hsources : sources address settings request mode = [⟨kind, Run.attempt r⟩])
    (direction : Option String) (layout : String) (m : Machine) :
    (run address settings request mode direction layout m).1 =
      (r m).1.bind fun i => finish mode.name direction layout ⟨kind, false, i⟩ := by
  have hselect : firstUsable Run.note (mode == .auto) none (sources address settings request mode) m
      = (.ok ((r m).1.map fun i => ⟨kind, false, i⟩), (r m).2) := by
    rw [hsources, hauto]
    exact firstUsable_single r m fun e => rfl
  rw [run_of_selection mode hselect]
  cases (r m).1 with
  | ok i => rfl
  | error e => rfl

theorem hint_of_format {request : SourceRequest}
    (h : request.format = some FormatHint.structured.name) : request.hint = .structured := by
  rw [SourceRequest.hint, h]
  rfl

/-- However a text arrives, its page list is what the run draws. -/
theorem Arrives.exists_gives {settings : Settings} {request : SourceRequest} {m : Machine}
    {mode : Mode} (h : Arrives text settings request m mode) (htree : ¬ Payload.IsTreeText text) :
    ∃ kind key result, Payload.Gives text key result ∧ ∀ address direction layout,
      (run address settings request mode direction layout m).1 =
        result.bind fun i => finish mode.name direction layout ⟨kind, false, i⟩ := by
  cases h with
  | @reply url key address r endpoint valid file token seconds answer status charset body =>
    have hsuccess : r.isSuccess = true := by
      rw [Response.isSuccess, status]
      rfl
    have hgives := gives_ingestStructured endpoint valid file token seconds answer hsuccess
      (Response.text_of_octets charset body)
    exact ⟨_, key, _, hgives,
      fun address direction layout => fst_run_of_single rfl rfl direction layout m⟩
  | file format path contents octets =>
    obtain ⟨key, hgives⟩ := gives_ingestFile htree (hint_of_format format) path contents octets
    exact ⟨_, key, _, hgives,
      fun address direction layout => fst_run_of_single rfl rfl direction layout m⟩
  | stdin format input =>
    exact ⟨_, _, _, gives_ingestStdin htree (hint_of_format format) input,
      fun address direction layout => fst_run_of_single rfl rfl direction layout m⟩

/-- What is drawn depends on the page list only. -/
theorem sameDiagram_finish (key key' mode mode' kind kind' : String) (list : Wire.PageList)
    (lone : Text.StandIns) (direction : Option String) (layout : String) :
    SameDiagram (finish mode direction layout ⟨kind, false, .structured key list lone⟩)
      (finish mode' direction layout ⟨kind', false, .structured key' list lone⟩) := by
  have hrender : (Ingested.structured key list lone).document.render direction layout =
      (Ingested.structured key' list lone).document.render direction layout := rfl
  rw [finish, finish, hrender]
  cases (Ingested.structured key' list lone).document.render direction layout with
  | error e => exact .failed e e
  | ok pages => exact .shown rfl rfl rfl rfl

/-- A text that is no tree file shows the same diagram whichever way it arrives. -/
theorem run_sameDiagram (htree : ¬ Payload.IsTreeText text) {settings settings' : Settings}
    {request request' : SourceRequest} {m m' : Machine} {mode mode' : Mode}
    (h : Arrives text settings request m mode) (h' : Arrives text settings' request' m' mode')
    (address address' : String) (direction : Option String) (layout : String) :
    SameDiagram (run address settings request mode direction layout m).1
      (run address' settings' request' mode' direction layout m').1 := by
  obtain ⟨kind, key, result, hgives, hrun⟩ := h.exists_gives htree
  obtain ⟨kind', key', result', hgives', hrun'⟩ := h'.exists_gives htree
  rw [hrun, hrun']
  by_cases hlist : ∃ list, Payload.ListsPages text list
  · obtain ⟨list, hlist⟩ := hlist
    rw [(hgives _).mpr ⟨list, hlist, rfl⟩, (hgives' _).mpr ⟨list, hlist, rfl⟩]
    exact sameDiagram_finish key key' mode.name mode'.name kind kind' list _ direction layout
  · have hfails {key : String} {result : Except Failure Ingested}
        (hgives : Payload.Gives text key result) : ∃ e, result = .error e := by
      refine Payload.exists_error fun i hi => ?_
      obtain ⟨list, h, -⟩ := (hgives i).mp hi
      exact hlist ⟨list, h⟩
    obtain ⟨e, rfl⟩ := hfails hgives
    obtain ⟨e', rfl⟩ := hfails hgives'
    exact .failed e e'

/-- Canvas markup whose lines end in two characters each. -/
def wrappedCanvas : String :=
  "<canvas id=\"1:1\" name=\"Flow\">\r\n<sticky id=\"s1\">Two\r\nlines</sticky></canvas>"

theorem arrives_reply : Arrives wrappedCanvas { url := some "http://localhost/pages" }
    { input := "flowboard" }
    { replies := [.answered { status := 200, body := .text wrappedCanvas }] } .structured := by
  have haddress : (Address.ofChars "http://localhost/pages".toList).toOption.isSome = true := by
    decide +kernel
  cases h : Address.ofChars "http://localhost/pages".toList with
  | error fault =>
    rw [h] at haddress
    cases haddress
  | ok address =>
    exact .reply rfl h (by decide : FileKey.extract "flowboard" = .ok "flowboard") nofun
      (by decide +kernel) rfl rfl (by decide +kernel) rfl

theorem arrives_file : Arrives wrappedCanvas {}
    { input := "board.xml", format := some "structured" }
    { files := ⟨[(["tmp", "work", "board.xml"], .file (.text wrappedCanvas))]⟩ } .file :=
  .file (c := .text wrappedCanvas) rfl (by decide +kernel) (by decide +kernel) rfl

theorem arrives_stdin : Arrives wrappedCanvas {} { input := "", format := some "structured" }
    { stdin := some wrappedCanvas } .stdin := .stdin rfl rfl

theorem run_sameDiagram_wrappedCanvas :
    ¬ Payload.IsTreeText wrappedCanvas ∧
      (run boardAddress {} { input := "", format := some "structured" } .stdin none "auto"
        { stdin := some wrappedCanvas }).1.toOption.isSome = true ∧
      SameDiagram
        (run boardAddress { url := some "http://localhost/pages" } { input := "flowboard" }
          .structured none "auto"
          { replies := [.answered { status := 200, body := .text wrappedCanvas }] }).1
        (run boardAddress {} { input := "", format := some "structured" } .stdin none "auto"
          { stdin := some wrappedCanvas }).1 ∧
      SameDiagram
        (run boardAddress {} { input := "board.xml", format := some "structured" } .file none "auto"
          { files := ⟨[(["tmp", "work", "board.xml"], .file (.text wrappedCanvas))]⟩ }).1
        (run boardAddress {} { input := "", format := some "structured" } .stdin none "auto"
          { stdin := some wrappedCanvas }).1 := by
  have htree : ¬ Payload.IsTreeText wrappedCanvas := by
    rintro ⟨hfirst, -⟩
    have hmarkup : Payload.isMarkup (Text.trimChars wrappedCanvas.toList) = true := by
      decide +kernel
    exact absurd (hmarkup.symm.trans hfirst) nofun
  exact ⟨htree, by decide +kernel,
    run_sameDiagram htree arrives_reply arrives_stdin boardAddress boardAddress none "auto",
    run_sameDiagram htree arrives_file arrives_stdin boardAddress boardAddress none "auto"⟩

end Pipeline

end FlowBoard
