import FlowBoard.Proofs.Machine.Run
import Mathlib.Data.List.Forall2
import Mathlib.Tactic.SplitIfs

/-!
# Runs on two machines

Two runs agree for a relation of machines when, started on related machines, they end alike and
leave related machines. The relation of interest is that of twins: machines that are equal but for
the requests since a start, which are related one by one. Twins stay twins as long as the requests
that they send are related and are sent, or refused, alike.
-/

namespace FlowBoard

namespace Machine

/-- Machines that differ in the requests after `before` only, which are alike one by one. -/
structure Twins (before : List Http.Request) (alike : Http.Request → Http.Request → Prop)
    (m m' : Machine) : Prop where
  rest : m' = { m with requests := m'.requests }
  requests : ∃ sent sent', m.requests = before ++ sent ∧ m'.requests = before ++ sent' ∧
    List.Forall₂ alike sent sent'

theorem Twins.refl (alike : Http.Request → Http.Request → Prop) (m : Machine) :
    Twins m.requests alike m m :=
  ⟨rfl, [], [], (List.append_nil _).symm, (List.append_nil _).symm, .nil⟩

section

variable {before : List Http.Request} {alike : Http.Request → Http.Request → Prop}
  {m m' : Machine}

theorem Twins.nextReply_eq (h : Twins before alike m m') : m'.nextReply = m.nextReply := by
  rw [h.rest, nextReply, nextReply]

theorem Twins.noted (h : Twins before alike m m') (line : String) :
    Twins before alike (m.noted line) (m'.noted line) := by
  refine ⟨?_, h.requests⟩
  rw [Machine.noted, h.rest]
  rfl

theorem Twins.sent (h : Twins before alike m m') {q q' : Http.Request} (hq : alike q q') :
    Twins before alike (m.sent q) (m'.sent q') := by
  obtain ⟨sent, sent', hsent, hsent', halike⟩ := h.requests
  refine ⟨?_, sent ++ [q], sent' ++ [q'], ?_, ?_, ?_⟩
  · rw [Machine.sent, h.rest]
    rfl
  · rw [Machine.sent, hsent, List.append_assoc]
  · rw [Machine.sent, hsent', List.append_assoc]
  · exact List.rel_append halike (.cons hq .nil)

end

end Machine

namespace Run

variable {α β : Type} {rel : Machine → Machine → Prop}

def Agree (rel : Machine → Machine → Prop) (r r' : Run α) : Prop :=
  ∀ m m', rel m m' → (r m).1 = (r' m').1 ∧ rel (r m).2 (r' m').2

namespace Agree

theorem bind {r r' : Run α} {f f' : α → Run β} (h : Agree rel r r')
    (hf : ∀ a, Agree rel (f a) (f' a)) : Agree rel (r >>= f) (r' >>= f') := by
  intro m m' hm
  obtain ⟨hresult, hleft⟩ := h m m' hm
  rcases hr : r m with ⟨result, m₁⟩
  rcases hr' : r' m' with ⟨result', m₁'⟩
  rw [hr, hr'] at hresult hleft
  obtain rfl : result = result' := hresult
  cases result with
  | error e =>
    rw [bind_of_error hr, bind_of_error hr']
    exact ⟨rfl, hleft⟩
  | ok a =>
    rw [bind_of_ok hr, bind_of_ok hr']
    exact hf a m₁ m₁' hleft

theorem ofExcept (x : Except Failure α) : Agree rel (Run.ofExcept x) (Run.ofExcept x) :=
  fun _ _ hm => ⟨rfl, hm⟩

theorem pure (a : α) : Agree rel (Pure.pure a : Run α) (Pure.pure a) := fun _ _ hm => ⟨rfl, hm⟩

theorem throw (e : Failure) : Agree rel (MonadExcept.throw e : Run α) (MonadExcept.throw e) :=
  fun _ _ hm => ⟨rfl, hm⟩

theorem throw_bind (e : Failure) (f f' : α → Run β) :
    Agree rel ((MonadExcept.throw e : Run α) >>= f) ((MonadExcept.throw e : Run α) >>= f') :=
  fun _ _ hm => ⟨rfl, hm⟩

theorem ite {c : Prop} [Decidable c] {r₁ r₂ r₁' r₂' : Run α} (h₁ : Agree rel r₁ r₁')
    (h₂ : Agree rel r₂ r₂') : Agree rel (if c then r₁ else r₂) (if c then r₁' else r₂') := by
  split_ifs
  · exact h₁
  · exact h₂

theorem attempt {r r' : Run α} (h : Agree rel r r') :
    Agree rel (Run.attempt r) (Run.attempt r') := by
  intro m m' hm
  obtain ⟨hresult, hleft⟩ := h m m' hm
  exact ⟨congrArg Except.ok hresult, hleft⟩

end Agree

/-! ## Twins -/

section

variable {before : List Http.Request} {alike : Http.Request → Http.Request → Prop}

theorem agree_note (line : String) : Agree (Machine.Twins before alike) (note line) (note line) :=
  fun _ _ hm => ⟨rfl, hm.noted line⟩

theorem agree_readText (path : Path) :
    Agree (Machine.Twins before alike) (readText path) (readText path) := by
  intro m m' hm
  refine ⟨?_, hm⟩
  rw [hm.rest]
  rfl

theorem agree_readStdin (interactive : Failure) :
    Agree (Machine.Twins before alike) (readStdin interactive) (readStdin interactive) := by
  intro m m' hm
  have hstdin : m'.stdin = m.stdin := by rw [hm.rest]
  cases hm₀ : m.stdin with
  | none =>
    rw [readStdin_of_none hm₀, readStdin_of_none (hstdin.trans hm₀)]
    exact ⟨rfl, hm⟩
  | some s =>
    rw [readStdin_of_some hm₀, readStdin_of_some (hstdin.trans hm₀)]
    exact ⟨rfl, hm⟩

/-- Requests that are alike, and both of which are sent or refused for one reason. -/
theorem agree_send {q q' : Http.Request} (hcheck : q.check = q'.check) (halike : alike q q') :
    Agree (Machine.Twins before alike) (send q) (send q') := by
  intro m m' hm
  cases hq : q.check with
  | error e =>
    rw [send_of_error hq, send_of_error (hcheck.symm.trans hq)]
    exact ⟨rfl, hm⟩
  | ok u =>
    rw [send_of_ok hq, send_of_ok (hcheck.symm.trans hq), hm.nextReply_eq]
    exact ⟨rfl, hm.sent halike⟩

end

end Run

end FlowBoard
