/-
Ontograph.Proofs.Client.Transience — which replies make a client try again.

Whether a client tries again depends on the reply alone. It does if nothing came
back, if the status says that there were too many requests or that the server is
at fault, or if a graph store states an error that passes (`Worth`). But a body
that cannot be read counts as nothing that came back, even under a status of
success, and a status beyond those of a server's faults counts as one of them
(`Misread`); `mayPass_outcome_iff` says for each client that this is all.

A reply that is neither is the last that is heard, and the client answers with
what it says (`Heeds`). That a client heeds what is worth another try and
nothing else is therefore true of a call exactly if it hears nothing that is
misread (`clients_heed`) — for a graph session, which answers with its last
failure in any case, if it hears nothing of this kind before its last attempt.
-/
import Ontograph.Proofs.Client.Accounts

namespace Ontograph

open Http (Accounts MayPass Message Reply Request answers_attempts scripted)

/-! ## Replies -/

namespace Http

/-- A reply after which the same request may succeed: none at all, one that there were too many
requests or that the server is at fault, or a success whose body states an error that passes. -/
def Worth (states : String → Prop) : Reply → Prop
  | .dropped => True
  | .answered status body =>
    status = 429 ∨ (500 ≤ status ∧ status < 600) ∨ (isSuccess status = true ∧ states body)

/-- A reply that is taken for one of these and is not: a success whose body cannot be read, or a
status beyond those of a server's faults. -/
def Misread (readable : String → Prop) : Reply → Prop
  | .dropped => False
  | .answered status body => 600 ≤ status ∨ (isSuccess status = true ∧ ¬ readable body)

theorem isSuccess_iff {status : Nat} : isSuccess status = true ↔ 200 ≤ status ∧ status < 300 := by
  simp [isSuccess]

theorem isPassing_iff {status : Nat} : isPassing status = true ↔ status = 429 ∨ 500 ≤ status := by
  simp [isPassing]

/-- Under a status of success only the body counts. -/
theorem worth_or_misread_of_success {states readable : String → Prop} {status : Nat}
    (h : isSuccess status = true) (body : String) :
    Worth states (.answered status body) ∨ Misread readable (.answered status body) ↔
      states body ∨ ¬ readable body := by
  have hrange := isSuccess_iff.mp h
  constructor
  · rintro ((h429 | hfault | hstates) | (hbeyond | hunreadable))
    · omega
    · omega
    · exact .inl hstates.2
    · omega
    · exact .inr hunreadable.2
  · rintro (hstates | hunreadable)
    · exact .inl (.inr (.inr ⟨h, hstates⟩))
    · exact .inr (.inr ⟨h, hunreadable⟩)

/-- Under any other status only the status counts. -/
theorem worth_or_misread_of_failure {states readable : String → Prop} {status : Nat}
    (h : ¬ isSuccess status = true) (body : String) :
    Worth states (.answered status body) ∨ Misread readable (.answered status body) ↔
      isPassing status = true := by
  rw [isPassing_iff]
  constructor
  · rintro ((h429 | hfault | hstates) | (hbeyond | hunreadable))
    · exact .inl h429
    · exact .inr hfault.1
    · exact absurd hstates.1 h
    · exact .inr (by omega)
    · exact absurd hunreadable.1 h
  · rintro (h429 | hfault)
    · exact .inl (.inl h429)
    · by_cases hbeyond : 600 ≤ status
      · exact .inr (.inl hbeyond)
      · exact .inl (.inr (.inl ⟨hfault, by omega⟩))

/-- What is misread is not worth another try, if a body that states an error can be read. -/
theorem not_worth_of_misread {states readable : String → Prop}
    (hreadable : ∀ body, states body → readable body) {reply : Reply}
    (h : Misread readable reply) : ¬ Worth states reply := by
  cases reply with
  | dropped => exact h.elim
  | answered status body =>
    rcases h with hbeyond | ⟨hsuccess, hunreadable⟩
    · rintro (h429 | hfault | ⟨hsuccess, -⟩)
      · omega
      · omega
      · have := isSuccess_iff.mp hsuccess
        omega
    · have := isSuccess_iff.mp hsuccess
      rintro (h429 | hfault | ⟨-, hstates⟩)
      · omega
      · omega
      · exact hunreadable (hreadable body hstates)

end Http

open Http (Misread Worth not_mayPass_bind)

/-! ## What each client takes for passing -/

namespace GraphReply

/-- A body whose first error has a code of those that pass. -/
def StatesPassing (body : String) : Prop :=
  ∃ results code message errors, ofText? body = some (results, (code, message) :: errors) ∧
    "Neo.TransientError".toList <+: code.toList

/-- Of a body with errors, the code of the first says whether the failure may pass. -/
theorem statesPassing_iff {body code message : String} {results : List Result}
    {errors : List (String × String)}
    (hread : ofText? body = some (results, (code, message) :: errors)) :
    StatesPassing body ↔ "Neo.TransientError".toList <+: code.toList := by
  constructor
  · rintro ⟨_, _, _, _, hread', hcode⟩
    rw [hread] at hread'
    cases hread'
    exact hcode
  · exact fun hcode => ⟨_, _, _, _, hread, hcode⟩

theorem not_statesPassing {body : String} {results : List Result}
    (hread : ofText? body = some (results, [])) : ¬ StatesPassing body := by
  rintro ⟨_, _, _, _, hread', -⟩
  rw [hread] at hread'
  cases hread'

theorem readable_of_statesPassing (body : String) (h : StatesPassing body) :
    (ofText? body).isSome = true := by
  obtain ⟨_, _, _, _, hread, -⟩ := h
  rw [hread]
  rfl

theorem not_mayPass_record (columns : List String) (row : List Json) :
    ¬ MayPass GraphError.isTransient (record columns row) := by
  unfold record
  split
  · exact id
  · exact Bool.false_ne_true

/-- Rows that do not fit their columns are not mended by another try. -/
theorem not_mayPass_records (columns : List String) (rows : List (List Json)) :
    ¬ MayPass GraphError.isTransient (rows.mapM (record columns)) := by
  induction rows with
  | nil => exact id
  | cons row rest ih =>
    rw [List.mapM_cons]
    exact not_mayPass_bind (not_mayPass_record columns row) fun _ =>
      not_mayPass_bind ih fun _ => id

/-- A session may try again after a reply that is worth it, and after one that it misreads. -/
theorem mayPass_outcome_iff (reply : Reply) :
    MayPass GraphError.isTransient (outcome reply) ↔
      Worth StatesPassing reply ∨ Misread (fun body => (ofText? body).isSome = true) reply := by
  cases reply with
  | dropped => exact iff_of_true rfl (.inl trivial)
  | answered status body =>
    by_cases hsuccess : Http.isSuccess status = true
    · rw [Http.worth_or_misread_of_success hsuccess, outcome, if_pos hsuccess]
      match hread : ofText? body with
      | none => exact iff_of_true rfl (.inr (by simp))
      | some (results, (code, message) :: errors) =>
        rw [statesPassing_iff hread]
        simp [MayPass, GraphError.isTransient]
      | some ([], []) => exact iff_of_false id (by simp [not_statesPassing hread])
      | some (result :: results, []) =>
        exact iff_of_false (not_mayPass_records _ _) (by simp [not_statesPassing hread])
    · rw [Http.worth_or_misread_of_failure hsuccess, outcome, if_neg hsuccess]
      exact Iff.rfl

end GraphReply

namespace EmbeddingSettings

/-- A client that fetches vectors may try again in the same two cases. -/
theorem mayPass_outcome_iff (s : EmbeddingSettings) (reply : Reply) :
    MayPass EmbeddingError.isTransient (s.outcome reply) ↔
      Worth (fun _ => False) reply ∨
        Misread (fun body => (vectorOfText? body).isSome = true) reply := by
  cases reply with
  | dropped => exact iff_of_true rfl (.inl trivial)
  | answered status body =>
    by_cases hsuccess : Http.isSuccess status = true
    · rw [Http.worth_or_misread_of_success hsuccess, outcome, if_pos hsuccess]
      match hread : vectorOfText? body with
      | none => exact iff_of_true rfl (.inr (by simp))
      | some none => exact iff_of_false Bool.false_ne_true (by simp)
      | some (some []) => exact iff_of_false Bool.false_ne_true (by simp)
      | some (some (x :: xs)) =>
        refine iff_of_false ?_ (by simp)
        show ¬ MayPass _ (if _ then _ else _)
        split
        · exact id
        · exact Bool.false_ne_true
    · rw [Http.worth_or_misread_of_failure hsuccess, outcome, if_neg hsuccess]
      exact Iff.rfl

/-- No reply by itself says that the retries are used up. -/
theorem outcome_ne_retryExhausted (s : EmbeddingSettings) (reply : Reply) (n : Nat) :
    s.outcome reply ≠ .error (.retryExhausted n) := by
  unfold outcome
  repeat' split
  all_goals simp

end EmbeddingSettings

namespace CompletionSettings

/-- A client that completes prompts may try again in these two cases as well. -/
theorem mayPass_outcome_iff (reply : Reply) :
    MayPass CompletionError.isTransient (outcome reply) ↔
      Worth (fun _ => False) reply ∨
        Misread (fun body => (responseOfText? body).isSome = true) reply := by
  cases reply with
  | dropped => exact iff_of_true rfl (.inl trivial)
  | answered status body =>
    by_cases hsuccess : Http.isSuccess status = true
    · rw [Http.worth_or_misread_of_success hsuccess, outcome, if_pos hsuccess]
      match hread : responseOfText? body with
      | none => exact iff_of_true rfl (.inr (by simp))
      | some text => exact iff_of_false id (by simp)
    · rw [Http.worth_or_misread_of_failure hsuccess, outcome, if_neg hsuccess]
      exact Iff.rfl

/-- No reply by itself says that the retries are used up. -/
theorem outcome_ne_retryExhausted (reply : Reply) (n : Nat) :
    outcome reply ≠ .error (.retryExhausted n) := by
  unfold outcome
  repeat' split
  all_goals simp

end CompletionSettings

/-! ## Calls -/

namespace Http

section
variable {ε α : Type} {passing : ε → Bool} {outcome : Reply → Except ε α} {retries attempts : Nat}
  {exhausted : ε → ε} {heard : Nat → Reply} {result : Except ε α} {worth misread : Reply → Prop}

/-- A call tries again after the replies of a kind and no others: any other reply is the last that
is heard, and the answer is what this reply says. -/
def Heeds (worth : Reply → Prop) (outcome : Reply → Except ε α) (heard : Nat → Reply)
    (result : Except ε α) (attempts : Nat) : Prop :=
  ∀ j < attempts, ¬ worth (heard j) → attempts = j + 1 ∧ result = outcome (heard j)

/-- A program tries to send a message a number of times, at least once and no more often than its
limit allows, and gives a result. -/
def Tries (retries : Nat) (message : Message) (sent : List Request)
    (program : StateM (List Request) (Except ε α)) (result : Except ε α) (attempts : Nat) : Prop :=
  program.run sent = (result, sent ++ message.requests attempts) ∧
    0 < attempts ∧ attempts ≤ retries + 1

theorem exists_tries {message : Message} {replies : Nat → Reply} {sent : List Request}
    {program : StateM (List Request) (Except ε α)}
    (h : Answers passing outcome retries exhausted message replies sent program) :
    ∃ result attempts, Tries retries message sent program result attempts ∧
      Accounts passing (fun i => outcome (message.heard replies sent i)) retries exhausted
        result attempts := by
  obtain ⟨attempts, hsent, haccounts⟩ := h
  obtain ⟨k, hk, hattempts, -, -⟩ := haccounts.exists_last
  exact ⟨_, attempts, ⟨Prod.ext rfl hsent, by omega, by omega⟩, haccounts⟩

/-- A call heeds the replies whose outcome may pass. -/
theorem heeds_of_accounts
    (hreads : ∀ reply, MayPass passing (outcome reply) ↔ worth reply ∨ misread reply)
    (h : Accounts passing (fun i => outcome (heard i)) retries exhausted result attempts) :
    Heeds (fun reply => worth reply ∨ misread reply) outcome heard result attempts := by
  obtain ⟨k, -, rfl, hbefore, hlast⟩ := h.exists_last
  intro j hj hnot
  have hfinal : ¬ MayPass passing (outcome (heard j)) := mt (hreads _).mp hnot
  have hsame : j = k := by
    by_contra hne
    exact hfinal (hbefore j (by omega))
  subst hsame
  rcases hlast with ⟨-, hresult⟩ | ⟨hpass, -, -⟩
  · exact ⟨rfl, hresult⟩
  · exact absurd hpass hfinal

/-- If the last failure is not reported as it is, a call heeds only what is worth another try
exactly if it hears nothing that is misread. -/
theorem heeds_iff_of_exhausted
    (hreads : ∀ reply, MayPass passing (outcome reply) ↔ worth reply ∨ misread reply)
    (hapart : ∀ reply, misread reply → ¬ worth reply)
    (hreport : ∀ e reply, outcome reply ≠ .error (exhausted e))
    (h : Accounts passing (fun i => outcome (heard i)) retries exhausted result attempts) :
    Heeds worth outcome heard result attempts ↔ ∀ j < attempts, ¬ misread (heard j) := by
  constructor
  · intro hheeds j hj hmisread
    obtain ⟨hattempts, hresult⟩ := hheeds j hj (hapart _ hmisread)
    obtain ⟨k, -, hk, -, hlast⟩ := h.exists_last
    have hsame : k = j := by omega
    subst hsame
    rcases hlast with ⟨hfinal, -⟩ | ⟨-, -, e, -, hexhausted⟩
    · exact hfinal ((hreads _).mpr (.inr hmisread))
    · exact hreport e _ (hresult.symm.trans hexhausted)
  · intro hnone j hj hnot
    exact heeds_of_accounts hreads h j hj (not_or_intro hnot (hnone j hj))

/-- If the last failure is reported as it is, a call heeds only what is worth another try exactly
if it hears nothing that is misread before its last attempt. -/
theorem heeds_iff_of_last
    (hreads : ∀ reply, MayPass passing (outcome reply) ↔ worth reply ∨ misread reply)
    (hapart : ∀ reply, misread reply → ¬ worth reply)
    (h : Accounts passing (fun i => outcome (heard i)) retries id result attempts) :
    Heeds worth outcome heard result attempts ↔
      ∀ j, j + 1 < attempts → ¬ misread (heard j) := by
  constructor
  · intro hheeds j hj hmisread
    obtain ⟨hattempts, -⟩ := hheeds j (by omega) (hapart _ hmisread)
    omega
  · intro hnone j hj hnot
    by_cases hlast : j + 1 < attempts
    · exact heeds_of_accounts hreads h j hj (not_or_intro hnot (hnone j hlast))
    · obtain ⟨k, -, hk, -, hend⟩ := h.exists_last
      have hsame : k = j := by omega
      subst hsame
      rcases hend with ⟨-, hresult⟩ | ⟨-, -, e, houtcome, hresult⟩
      · exact ⟨hk, hresult⟩
      · exact ⟨hk, hresult.trans houtcome.symm⟩

end

end Http

open Http (Heeds Tries exists_tries heeds_iff_of_exhausted heeds_iff_of_last heeds_of_accounts
  not_worth_of_misread)

/-- Whatever the replies are and whatever was sent before, every client tries again only after a
reply that is worth another try or misread, and answers any other reply at once with what it says;
that is never that the retries are used up. It heeds what is worth another try and nothing else
exactly if it hears nothing that is misread, or, as a graph session, nothing of this kind before its
last attempt. -/
theorem clients_heed (replies : Nat → Reply) (sent : List Request) :
    (∀ (s : GraphSettings) (query : String) (params : Json), ∃ result attempts,
      let message := s.message query params
      let heard := message.heard replies sent
      let misread := Misread fun body => (GraphReply.ofText? body).isSome = true
      Tries s.maxRetries message sent ((GraphSession.remote (scripted replies) s).run query params)
        result attempts ∧
      Heeds (fun reply => Worth GraphReply.StatesPassing reply ∨ misread reply)
        GraphReply.outcome heard result attempts ∧
      (Heeds (Worth GraphReply.StatesPassing) GraphReply.outcome heard result attempts ↔
        ∀ j, j + 1 < attempts → ¬ misread (heard j))) ∧
    (∀ (s : EmbeddingSettings) (text : String), ∃ result attempts,
      let message := s.message text
      let heard := message.heard replies sent
      let misread := Misread fun body => (EmbeddingSettings.vectorOfText? body).isSome = true
      Tries s.maxRetries message sent (s.fetch (scripted replies) text) result attempts ∧
      Heeds (fun reply => Worth (fun _ => False) reply ∨ misread reply)
        s.outcome heard result attempts ∧
      (∀ reply n, s.outcome reply ≠ .error (.retryExhausted n)) ∧
      (Heeds (Worth fun _ => False) s.outcome heard result attempts ↔
        ∀ j < attempts, ¬ misread (heard j))) ∧
    (∀ (s : CompletionSettings) (prompt : String), ∃ result attempts,
      let message := s.message prompt
      let heard := message.heard replies sent
      let misread := Misread fun body => (CompletionSettings.responseOfText? body).isSome = true
      Tries s.maxRetries message sent
        ((CompletionBackend.remote (scripted replies) s).complete prompt) result attempts ∧
      Heeds (fun reply => Worth (fun _ => False) reply ∨ misread reply)
        CompletionSettings.outcome heard result attempts ∧
      (∀ reply n, CompletionSettings.outcome reply ≠ .error (.retryExhausted n)) ∧
      (Heeds (Worth fun _ => False) CompletionSettings.outcome heard result attempts ↔
        ∀ j < attempts, ¬ misread (heard j))) := by
  refine ⟨fun s query params => ?_, fun s text => ?_, fun s prompt => ?_⟩
  · rw [GraphSession.run_remote]
    obtain ⟨result, attempts, htries, haccounts⟩ :=
      exists_tries (answers_attempts GraphError.isTransient GraphReply.outcome s.maxRetries id
        (s.message query params) replies sent)
    exact ⟨result, attempts, htries, heeds_of_accounts GraphReply.mayPass_outcome_iff haccounts,
      heeds_iff_of_last GraphReply.mayPass_outcome_iff
        (fun _ => not_worth_of_misread GraphReply.readable_of_statesPassing) haccounts⟩
  · rw [EmbeddingSettings.fetch_eq]
    obtain ⟨result, attempts, htries, haccounts⟩ :=
      exists_tries (answers_attempts EmbeddingError.isTransient s.outcome s.maxRetries
        (fun _ => .retryExhausted s.maxRetries) (s.message text) replies sent)
    exact ⟨result, attempts, htries, heeds_of_accounts s.mayPass_outcome_iff haccounts,
      s.outcome_ne_retryExhausted, heeds_iff_of_exhausted s.mayPass_outcome_iff
        (fun _ => not_worth_of_misread fun _ => False.elim)
        (fun _ reply => s.outcome_ne_retryExhausted reply _) haccounts⟩
  · rw [CompletionBackend.complete_remote]
    obtain ⟨result, attempts, htries, haccounts⟩ :=
      exists_tries (answers_attempts CompletionError.isTransient CompletionSettings.outcome
        s.maxRetries (fun _ => .retryExhausted s.maxRetries) (s.message prompt) replies sent)
    exact ⟨result, attempts, htries,
      heeds_of_accounts CompletionSettings.mayPass_outcome_iff haccounts,
      CompletionSettings.outcome_ne_retryExhausted,
      heeds_iff_of_exhausted CompletionSettings.mayPass_outcome_iff
        (fun _ => not_worth_of_misread fun _ => False.elim)
        (fun _ reply => CompletionSettings.outcome_ne_retryExhausted reply _) haccounts⟩

/-- An answer that is no JSON, under a status of success, is not worth another try; a completion
client hears it twice, and says that its retries are used up. -/
theorem unreadable_completion_retried :
    let reply : Reply := .answered 200 "not json"
    ¬ Worth (fun _ => False) reply ∧
      ∃ request, ((CompletionBackend.remote (scripted fun _ => reply)
        { maxRetries := 1 }).complete "x").run [] =
          (.error (.retryExhausted 1), [request, request]) := by
  refine ⟨by simp [Worth], _, rfl⟩

end Ontograph
