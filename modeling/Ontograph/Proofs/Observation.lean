/-
Ontograph.Proofs.Observation — a loader under observation.

A loader runs in a monad of its caller's choice. Under observation it keeps a
log besides: every statement sent and every text embedded stands in it, with
the answer that came back. The session and the backend stay what they were and
answer from a state that any request may change, so that nothing is assumed
about the answers.

`Traces x P` says that `x` only ever adds to the log, and that `P` holds of its
outcome and of the events it added. `Traces.bind` carries this through a
program; what a function of the loader sends is one statement of this form,
built from those of the functions it calls.
`LogsOnly x kind` says less, that each event is of a kind, and can be added to what
is known of a program in another way (`Traces.and`).
-/
import Ontograph.Loader.Search

namespace Ontograph

/-! ## Logs -/

/-- Something that was asked of the outside, with the answer. -/
inductive Event where
  | sent (query : String) (params : Json) (answer : Except GraphError (List Record))
  | embedded (text : String) (answer : Except EmbeddingError (Option Embedding))

def Statement.event (s : Statement) (answer : Except GraphError (List Record)) : Event :=
  .sent s.query (.object s.params) answer

variable {m : Type → Type} [Monad m]

def GraphSession.observed (session : GraphSession m) : GraphSession (StateT (List Event) m) where
  run query params := do
    let answer ← session.run query params
    modify (· ++ [.sent query params answer])
    pure answer

def EmbeddingBackend.observed (backend : EmbeddingBackend m) :
    EmbeddingBackend (StateT (List Event) m) where
  name := backend.name
  dimensions := backend.dimensions
  embed text := do
    let answer ← backend.embed text
    modify (· ++ [.embedded text answer])
    pure answer

def Loader.observed (l : Loader m) : Loader (StateT (List Event) m) where
  ontology := l.ontology
  session := l.session.observed
  backend := l.backend.map EmbeddingBackend.observed
  registry := l.registry

/-- A program whose first part ends in a known state goes on from there. -/
theorem run_bind_of_run {σ α β : Type} {x : StateM σ α} {f : α → StateM σ β} {s s' : σ} {a : α}
    (h : x.run s = (a, s')) : (x >>= f).run s = (f a).run s' := by
  rw [StateT.run_bind, h]
  rfl

/-! ## What a program adds to the log -/

/-- Programs that keep a log and run against surroundings with a state. -/
abbrev Observed (σ : Type) := StateT (List Event) (StateM σ)

/-- From every state and log, `x` adds events to the log that satisfy `P` with its outcome. -/
def Traces {σ α : Type} (x : Observed σ α) (P : α → List Event → Prop) : Prop :=
  ∀ (log : List Event) (s : σ), ∃ (a : α) (events : List Event) (s' : σ),
    (x.run log).run s = ((a, log ++ events), s') ∧ P a events

namespace Traces

variable {σ α β : Type} {x : Observed σ α} {P Q : α → List Event → Prop}

theorem mono (hx : Traces x P) (h : ∀ a events, P a events → Q a events) : Traces x Q := by
  intro log s
  obtain ⟨a, events, s', hrun, hp⟩ := hx log s
  exact ⟨a, events, s', hrun, h a events hp⟩

theorem pure {a : α} (h : P a []) : Traces (Pure.pure a : Observed σ α) P := by
  intro log s
  exact ⟨a, [], s, by rw [List.append_nil]; rfl, h⟩

/-- The events of a sequence are those of its first part and then those of its second. -/
theorem bind {f : α → Observed σ β} {R : β → List Event → Prop} (hx : Traces x P)
    (hf : ∀ a events, P a events → Traces (f a) fun b more => R b (events ++ more)) :
    Traces (x >>= f) R := by
  intro log s
  obtain ⟨a, events, s', hrun, hp⟩ := hx log s
  obtain ⟨b, more, s'', hrun', hr⟩ := hf a events hp (log ++ events) s'
  refine ⟨b, events ++ more, s'', ?_, hr⟩
  rw [StateT.run_bind, StateT.run_bind, hrun, ← List.append_assoc]
  exact hrun'

/-- What is known of a program in two ways is known of the same events. -/
theorem and (hp : Traces x P) (hq : Traces x Q) :
    Traces x fun a events => P a events ∧ Q a events := by
  intro log s
  obtain ⟨a, events, s', hrun, hp⟩ := hp log s
  obtain ⟨a', events', s'', hrun', hq⟩ := hq log s
  have hsame : ((a, log ++ events), s') = ((a', log ++ events'), s'') := hrun.symm.trans hrun'
  simp only [Prod.mk.injEq, List.append_cancel_left_eq] at hsame
  obtain ⟨⟨rfl, rfl⟩, -⟩ := hsame
  exact ⟨a, events, s', hrun, hp, hq⟩

end Traces

/-- Every event that a program adds to the log is of a kind. -/
def LogsOnly {σ α : Type} (x : Observed σ α) (kind : Event → Prop) : Prop :=
  Traces x fun _ events => ∀ event ∈ events, kind event

namespace LogsOnly

variable {σ α β : Type} {x : Observed σ α} {kind : Event → Prop}

theorem pure (a : α) : LogsOnly (Pure.pure a : Observed σ α) kind :=
  Traces.pure fun _ h => absurd h List.not_mem_nil

theorem bind {f : α → Observed σ β} (hx : LogsOnly x kind) (hf : ∀ a, LogsOnly (f a) kind) :
    LogsOnly (x >>= f) kind := by
  refine Traces.bind hx fun a events hevents => (hf a).mono fun _ more hmore event hevent => ?_
  rcases List.mem_append.mp hevent with h | h
  · exact hevents event h
  · exact hmore event h

end LogsOnly

/-! ## Requests -/

variable {σ : Type}

/-- A statement that is run leaves one event. -/
theorem traces_run (session : GraphSession (StateM σ)) (query : String) (params : Json) :
    Traces (session.observed.run query params) fun answer events =>
      events = [.sent query params answer] := by
  intro log s
  exact ⟨_, _, _, rfl, rfl⟩

theorem traces_embed (backend : EmbeddingBackend (StateM σ)) (text : String) :
    Traces (backend.observed.embed text) fun answer events =>
      events = [.embedded text answer] := by
  intro log s
  exact ⟨_, _, _, rfl, rfl⟩

theorem traces_send (l : Loader (StateM σ)) (s : Statement) :
    Traces (l.observed.send s) fun answer events => events = [s.event answer] :=
  traces_run l.session s.query (.object s.params)

end Ontograph
