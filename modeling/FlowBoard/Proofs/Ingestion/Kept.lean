import FlowBoard.Pipeline
import FlowBoard.Proofs.Machine.Kept

/-!
# What sources leave as it was

Local sources only read. A remote source sends a request, and the pipeline may write a line for the
user; none of them touches files or standard output or starts the rasterizer.
-/

namespace FlowBoard

open Run (Keeps)

section

variable {γ : Type} {view : Machine → γ}

theorem keeps_ingestFile (request : SourceRequest) : Keeps view (Source.ingestFile request) := by
  refine Keeps.ite (Keeps.throw_bind _ _) ?_
  refine Keeps.bind ?_ fun text => Keeps.ofExcept _
  refine (Run.keeps_readText _).attempt.bind fun result => ?_
  cases result with
  | ok text => exact Keeps.pure _
  | error e => exact Keeps.throw _

theorem keeps_ingestStdin (request : SourceRequest) : Keeps view (Source.ingestStdin request) :=
  (Run.keeps_readStdin _).bind fun _ => Keeps.ofExcept _

theorem keeps_firstUsable (hnote : ∀ line, Keeps view (Run.note line)) (isAuto : Bool)
    {sources : List (Source Run)} (hsources : ∀ source ∈ sources, Keeps view source.ingest)
    (last : Option Failure) : Keeps view (Source.firstUsable Run.note isAuto last sources) := by
  induction sources generalizing last with
  | nil => exact Keeps.pure _
  | cons source rest ih =>
    rw [Source.firstUsable]
    refine (hsources source List.mem_cons_self).bind fun result => ?_
    cases result with
    | ok ingested => exact Keeps.pure _
    | error e =>
      refine Keeps.ite ?_ (Keeps.pure _)
      refine (hnote _).bind fun _ => ?_
      exact ih (fun other ho => hsources other (List.mem_cons_of_mem source ho)) (some e)

/-- The pipeline keeps what its sources and its lines for the user keep. -/
theorem keeps_pipeline (hnote : ∀ line, Keeps view (Run.note line)) (address : String)
    (settings : Settings) (request : SourceRequest) {mode : Mode}
    (hsources : ∀ kind ∈ mode.order,
      Keeps view (Pipeline.source address settings request kind).ingest)
    (direction : Option String) (layout : String) :
    Keeps view (Pipeline.run address settings request mode direction layout) := by
  refine (keeps_firstUsable hnote _ ?_ none).bind fun _ => Keeps.ofExcept _
  intro source hsource
  obtain ⟨kind, hkind, rfl⟩ := List.mem_map.mp hsource
  exact hsources kind hkind

/-- Without remote sources nothing is kept from view but the lines for the user. -/
theorem keeps_local_pipeline (hnote : ∀ line, Keeps view (Run.note line)) (address : String)
    (settings : Settings) (request : SourceRequest) {mode : Mode} (hmode : mode.isRemote = false)
    (direction : Option String) (layout : String) :
    Keeps view (Pipeline.run address settings request mode direction layout) := by
  refine keeps_pipeline hnote address settings request (fun kind hkind => ?_) direction layout
  refine Keeps.attempt ?_
  cases mode with
  | file =>
    obtain rfl := List.mem_singleton.mp hkind
    exact keeps_ingestFile request
  | stdin =>
    obtain rfl := List.mem_singleton.mp hkind
    exact keeps_ingestStdin request
  | tree => cases hmode
  | structured => cases hmode
  | auto => cases hmode

end

/-! ## Files, standard output and the rasterizer -/

theorem keeps_ingestTree (address : String) (request : SourceRequest) :
    Keeps Machine.effects (Source.ingestTree address request) := by
  refine (Keeps.ofExcept _).bind fun key => (Run.keeps_send _).bind fun reply => ?_
  exact (Keeps.ofExcept _).bind fun _ => Keeps.pure _

theorem keeps_ingestStructured (settings : Settings) (request : SourceRequest) :
    Keeps Machine.effects (Source.ingestStructured settings request) := by
  unfold Source.ingestStructured
  split
  · exact Keeps.throw _
  refine (Keeps.ofExcept _).bind fun key => Keeps.ite (Keeps.throw_bind _ _) ?_
  refine (Run.keeps_send _).bind fun reply => ?_
  exact (Keeps.ofExcept _).bind fun _ => Keeps.pure _

theorem keeps_effects_pipeline (address : String) (settings : Settings) (request : SourceRequest)
    (mode : Mode) (direction : Option String) (layout : String) :
    Keeps Machine.effects (Pipeline.run address settings request mode direction layout) := by
  refine keeps_pipeline Run.keeps_note address settings request (fun kind _ => ?_) direction layout
  refine Keeps.attempt ?_
  cases kind with
  | tree => exact keeps_ingestTree address request
  | structured => exact keeps_ingestStructured settings request
  | file => exact keeps_ingestFile request
  | stdin => exact keeps_ingestStdin request

end FlowBoard
