/-
Ontograph.Proofs.Http.Attempt — repeated attempts against a sequence of replies.

A scripted server answers the requests that it gets from a sequence, whatever
they are, and keeps them. An attempt to send a message puts one request before
it, or none if the address of the message cannot be read; then nothing is heard.
So the outcomes of the attempts are a sequence too, and `attempt` goes through
it up to the first outcome that is final, or through as much of it as its limit
allows (`exists_attempt`). `Accounts` says this from the caller's side: how
often the same request was sent, and what came of it.
-/
import Mathlib.Data.Nat.Find
import Ontograph.Http.Exchange

namespace Ontograph.Http

/-! ## Scripted servers -/

def scripted (replies : Nat → Reply) : Transport (StateM (List Request)) :=
  fun request sent => (replies sent.length, sent ++ [request])

namespace Message

def request? (message : Message) : Option Request :=
  (Address.ofText? message.url).map fun address =>
    { address, authorization := message.authorization, body := message.body }

/-- The requests of some attempts to send a message: the same each time. -/
def requests (message : Message) (attempts : Nat) : List Request :=
  match message.request? with
  | some request => List.replicate attempts request
  | none => []

/-- What each attempt hears, beginning after some requests. -/
def heard (message : Message) (replies : Nat → Reply) (sent : List Request) (i : Nat) : Reply :=
  match message.request? with
  | some _ => replies (sent.length + i)
  | none => .dropped

end Message

theorem send_eq {m : Type → Type} [Monad m] (transport : Transport m) (message : Message) :
    send transport message =
      match message.request? with
      | some request => transport request
      | none => pure .dropped := by
  unfold send Message.request?
  cases Address.ofText? message.url <;> rfl

/-- One attempt sends the message once more and hears the next reply. -/
theorem run_send_scripted (replies : Nat → Reply) (message : Message) (sent : List Request)
    (i : Nat) :
    (send (scripted replies) message).run (sent ++ message.requests i) =
      (message.heard replies sent i, sent ++ message.requests (i + 1)) := by
  rw [send_eq, Message.requests, Message.heard, Message.requests]
  cases message.request? with
  | none => rfl
  | some request =>
    show (replies (sent ++ List.replicate i request).length,
      (sent ++ List.replicate i request) ++ [request]) =
        (replies (sent.length + i), sent ++ List.replicate (i + 1) request)
    rw [List.length_append, List.length_replicate, List.replicate_succ', List.append_assoc]

/-! ## Attempts -/

section
variable {σ ε α : Type} {passing : ε → Bool} {action : StateM σ (Except ε α)}

/-- An outcome after which one may try again: a failure that may pass. -/
def MayPass (passing : ε → Bool) : Except ε α → Prop
  | .ok _ => False
  | .error e => passing e = true

theorem not_mayPass_bind {β : Type} {x : Except ε α} {f : α → Except ε β}
    (hx : ¬ MayPass passing x) (hf : ∀ a, ¬ MayPass passing (f a)) :
    ¬ MayPass passing (x >>= f) := by
  cases x with
  | ok a => exact hf a
  | error e => exact hx

/-- After a failure that may pass there is another attempt, while the limit allows. -/
theorem run_attempt_of_mayPass {s s' : σ} {outcome : Except ε α}
    (hrun : action.run s = (outcome, s')) (h : MayPass passing outcome) (retries : Nat) :
    (attempt passing action (retries + 1)).run s = (attempt passing action retries).run s' := by
  rw [attempt, StateT.run_bind, hrun]
  cases outcome with
  | ok a => exact h.elim
  | error e =>
    show (if passing e then attempt passing action retries else pure (.error e)).run s' = _
    rw [if_pos (show passing e = true from h)]

/-- Any other outcome is the last. -/
theorem run_attempt_of_final {s s' : σ} {outcome : Except ε α}
    (hrun : action.run s = (outcome, s')) (h : ¬ MayPass passing outcome) (retries : Nat) :
    (attempt passing action retries).run s = (outcome, s') := by
  cases retries with
  | zero => exact hrun
  | succ retries =>
    rw [attempt, StateT.run_bind, hrun]
    cases outcome with
    | ok a => rfl
    | error e =>
      show (if passing e then attempt passing action retries else pure (.error e)).run s' = _
      rw [if_neg (show ¬ passing e = true from h)]
      rfl

variable (passing) in
/-- Attempts that lead from state to state go on to the first outcome that is final, or to the last
outcome that the limit allows. -/
theorem exists_attempt (state : Nat → σ) {outcome : Nat → Except ε α}
    (hstep : ∀ i, action.run (state i) = (outcome i, state (i + 1))) (retries i : Nat) :
    ∃ k ≤ retries, (∀ j < k, MayPass passing (outcome (i + j))) ∧
      (k = retries ∨ ¬ MayPass passing (outcome (i + k))) ∧
      (attempt passing action retries).run (state i) = (outcome (i + k), state (i + k + 1)) := by
  induction retries generalizing i with
  | zero => exact ⟨0, Nat.le_refl 0, nofun, .inl rfl, hstep i⟩
  | succ retries ih =>
    by_cases hpass : MayPass passing (outcome i)
    · obtain ⟨k, hk, hbefore, hend, htail⟩ := ih (i + 1)
      have hshift (j : Nat) : i + 1 + j = i + (j + 1) := by omega
      rw [hshift] at hend htail
      refine ⟨k + 1, Nat.succ_le_succ hk, ?_, hend.imp (congrArg (· + 1)) id, ?_⟩
      · intro j hj
        cases j with
        | zero => exact hpass
        | succ j =>
          rw [← hshift]
          exact hbefore j (Nat.lt_of_succ_lt_succ hj)
      · rw [run_attempt_of_mayPass (hstep i) hpass, htail]
    · exact ⟨0, Nat.zero_le _, nofun, .inr hpass, run_attempt_of_final (hstep i) hpass _⟩

/-- What attempts end with is what some attempt ended with. -/
theorem attempt_ends {P : Except ε α → Prop} (h : ∀ s, P (action.run s).1) (retries : Nat) (s : σ) :
    P ((attempt passing action retries).run s).1 := by
  induction retries generalizing s with
  | zero => exact h s
  | succ retries ih =>
    have hrun : action.run s = ((action.run s).1, (action.run s).2) := rfl
    by_cases hpass : MayPass passing (action.run s).1
    · rw [run_attempt_of_mayPass hrun hpass]
      exact ih _
    · rw [run_attempt_of_final hrun hpass]
      exact h s

end

/-! ## Accounts -/

section
variable {ε α : Type} {passing : ε → Bool} {outcome : Nat → Except ε α} {retries : Nat}
  {exhausted : ε → ε}

/-- What a client answers after its last attempt: a failure that may pass is reported as the client
reports that its attempts are used up, anything else as it is. -/
def report (passing : ε → Bool) (exhausted : ε → ε) : Except ε α → Except ε α
  | .ok a => .ok a
  | .error e => .error (if passing e then exhausted e else e)

/-- How often a client tried, and what it answers, for a sequence of outcomes. If there is a final
outcome within the limit, it tries up to the first and answers with it; otherwise it tries as often
as the limit allows and reports the last failure. -/
structure Accounts (passing : ε → Bool) (outcome : Nat → Except ε α) (retries : Nat)
    (exhausted : ε → ε) (result : Except ε α) (attempts : Nat) : Prop where
  settles : ∀ k ≤ retries, (∀ j < k, MayPass passing (outcome j)) →
    ¬ MayPass passing (outcome k) → attempts = k + 1 ∧ result = outcome k
  exhausts : (∀ j ≤ retries, MayPass passing (outcome j)) → attempts = retries + 1 ∧
    ∃ e, outcome retries = .error e ∧ result = .error (exhausted e)

theorem report_of_mayPass {x : Except ε α} (h : MayPass passing x) :
    ∃ e, x = .error e ∧ report passing exhausted x = .error (exhausted e) := by
  cases x with
  | ok a => exact h.elim
  | error e => exact ⟨e, rfl, congrArg Except.error (if_pos h)⟩

theorem report_of_final {x : Except ε α} (h : ¬ MayPass passing x) :
    report passing exhausted x = x := by
  cases x with
  | ok a => rfl
  | error e => exact congrArg Except.error (if_neg h)

/-- An attempt that comes after failures that may pass, and that is final or the last one allowed,
accounts for all of them. -/
theorem accounts_report {k : Nat} (hk : k ≤ retries)
    (hbefore : ∀ j < k, MayPass passing (outcome j))
    (hend : k = retries ∨ ¬ MayPass passing (outcome k)) :
    Accounts passing outcome retries exhausted (report passing exhausted (outcome k)) (k + 1) where
  settles k' hk' hbefore' hfinal := by
    have hsame : k = k' := by
      rcases Nat.lt_trichotomy k k' with hlt | heq | hgt
      · rcases hend with hlast | hnot
        · omega
        · exact absurd (hbefore' k hlt) hnot
      · exact heq
      · exact absurd (hbefore k' hgt) hfinal
    subst hsame
    exact ⟨rfl, report_of_final hfinal⟩
  exhausts hall := by
    have hlast : k = retries := hend.resolve_right (not_not_intro (hall k hk))
    subst hlast
    exact ⟨rfl, report_of_mayPass (hall k hk)⟩

/-- The last attempt, in either case. -/
theorem Accounts.exists_last {result : Except ε α} {attempts : Nat}
    (h : Accounts passing outcome retries exhausted result attempts) :
    ∃ k ≤ retries, attempts = k + 1 ∧ (∀ j < k, MayPass passing (outcome j)) ∧
      (¬ MayPass passing (outcome k) ∧ result = outcome k ∨
        MayPass passing (outcome k) ∧ k = retries ∧
          ∃ e, outcome k = .error e ∧ result = .error (exhausted e)) := by
  classical
  by_cases hall : ∀ j ≤ retries, MayPass passing (outcome j)
  · obtain ⟨hattempts, hlast⟩ := h.exhausts hall
    exact ⟨retries, Nat.le_refl _, hattempts, fun j hj => hall j (Nat.le_of_lt hj),
      .inr ⟨hall retries (Nat.le_refl _), rfl, hlast⟩⟩
  · have hfinal : ∃ k, k ≤ retries ∧ ¬ MayPass passing (outcome k) := by
      simpa using hall
    obtain ⟨hk, hnot⟩ := Nat.find_spec hfinal
    have hbefore (j : Nat) (hj : j < Nat.find hfinal) : MayPass passing (outcome j) := by
      have hmin := Nat.find_min hfinal hj
      rw [not_and, not_not] at hmin
      exact hmin (by omega)
    obtain ⟨hattempts, hresult⟩ := h.settles _ hk hbefore hnot
    exact ⟨_, hk, hattempts, hbefore, .inl ⟨hnot, hresult⟩⟩

/-- From a number of requests on, a program sends the same message again and again and answers as it
accounts for what it hears. -/
def Answers (passing : ε → Bool) (outcome : Reply → Except ε α) (retries : Nat)
    (exhausted : ε → ε) (message : Message) (replies : Nat → Reply) (sent : List Request)
    (program : StateM (List Request) (Except ε α)) : Prop :=
  ∃ attempts, (program.run sent).2 = sent ++ message.requests attempts ∧
    Accounts passing (fun i => outcome (message.heard replies sent i)) retries exhausted
      (program.run sent).1 attempts

def attempts {m : Type → Type} [Monad m] (passing : ε → Bool) (outcome : Reply → Except ε α)
    (retries : Nat) (transport : Transport m) (message : Message) : m (Except ε α) :=
  attempt passing (do pure (outcome (← send transport message))) retries

/-- What the attempts end with is what some reply says. -/
theorem exists_reply_of_attempts {σ : Type} (passing : ε → Bool) (outcome : Reply → Except ε α)
    (retries : Nat) (transport : Transport (StateM σ)) (message : Message) (s : σ) :
    ∃ reply, ((attempts passing outcome retries transport message).run s).1 = outcome reply := by
  refine attempt_ends (P := fun last => ∃ reply, last = outcome reply) (fun before => ?_) retries s
  exact ⟨((send transport message).run before).1, by rw [StateT.run_bind]; rfl⟩

/-- A client that reports what its attempts end with accounts for them. -/
theorem answers_attempts (passing : ε → Bool) (outcome : Reply → Except ε α) (retries : Nat)
    (exhausted : ε → ε) (message : Message) (replies : Nat → Reply) (sent : List Request) :
    Answers passing outcome retries exhausted message replies sent
      (attempts passing outcome retries (scripted replies) message >>= fun last =>
        pure (report passing exhausted last)) := by
  have hstep (i : Nat) :
      (do pure (outcome (← send (scripted replies) message)) :
          StateM (List Request) (Except ε α)).run (sent ++ message.requests i) =
        (outcome (message.heard replies sent i), sent ++ message.requests (i + 1)) := by
    rw [StateT.run_bind, run_send_scripted]
    rfl
  obtain ⟨k, hk, hbefore, hend, hrun⟩ :=
    exists_attempt passing (fun i => sent ++ message.requests i) hstep retries 0
  have hnone : message.requests 0 = [] := by
    unfold Message.requests
    cases message.request? <;> rfl
  simp only [Nat.zero_add, hnone, List.append_nil] at hbefore hend hrun
  rw [Answers, StateT.run_bind, attempts, hrun]
  exact ⟨k + 1, rfl, accounts_report hk hbefore hend⟩

end

end Ontograph.Http
