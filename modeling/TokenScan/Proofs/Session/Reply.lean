import TokenScan.Proofs.Session.Pending
/-!
# What calls bring to light

What can be read off the replies to a sequence of calls: the tokens that were extracted, white space
that was passed over included (`Session.extractedBy`), and the constructs that were reported as open
(`Session.reportedBy`).

The three ways of taking tokens are told of in the same terms. Each is a run and one more step, and
`Session.Taken` says what its reply shows of these two: a lemma about calls goes through
`taken_next`, `taken_nextRaw` and `taken_tokens` and need not know the loops.
-/

namespace TokenScan

/-- The token that an event tells of. -/
def Event.token? : Event → Option Token
  | .extracted token => some token
  | _ => none

/-- The tokens that events tell of. -/
def tokensOf (events : List Event) : List Token := events.filterMap Event.token?

@[simp] theorem tokensOf_append (before after : List Event) :
    tokensOf (before ++ after) = tokensOf before ++ tokensOf after := List.filterMap_append

@[simp] theorem tokensOf_extractions (tokens : List Token) :
    tokensOf (Session.extractions tokens) = tokens := by
  induction tokens with
  | nil => rfl
  | cons token tokens ih => exact congrArg (token :: ·) ih

/-- The construct that an answer reports as open. -/
def Answer.open? : Answer → Option Unterminated
  | .token (.error e) => some e
  | .tokens (.error e) => some e
  | _ => none

/-- The tokens that an answer gives. -/
def Answer.given : Answer → List Token
  | .token (.ok token?) => token?.toList
  | .tokens (.ok found) => found
  | _ => []

/-- Whether an answer tells that no token comes any more: it is the end, or an open construct, or
all the tokens up to one of them. -/
def Answer.EndsScan : Answer → Prop
  | .token (.ok (some _)) | .done | .notOpened _ | .added _ => False
  | .token (.ok none) | .token (.error _) | .tokens _ => True

/-- Whether a call asks for tokens. -/
def Call.AsksForTokens : Call → Prop
  | .next | .nextRaw | .item | .tokens => True
  | .openText _ | .openReads _ | .openFile _ _ | .bind _ => False
  | .registerDigraph _ | .registerSingle _ | .close => False

namespace Session

variable {s : Session}

/-- The tokens that calls extract when they are answered one after the other. -/
def extractedBy (s : Session) : List Call → List Token
  | [] => []
  | call :: calls =>
    tokensOf (s.perform call).events ++ (s.perform call).session.extractedBy calls

/-- The constructs that calls report as open. -/
def reportedBy (s : Session) (calls : List Call) : List Unterminated :=
  (s.performAll calls).1.filterMap Answer.open?

theorem reportedBy_cons (s : Session) (call : Call) (calls : List Call) :
    s.reportedBy (call :: calls) =
      (s.perform call).answer.open?.toList ++ (s.perform call).session.reportedBy calls := by
  show ((s.perform call).answer :: _).filterMap Answer.open? = _
  rw [List.filterMap_cons]
  cases (s.perform call).answer.open? <;> rfl

/-! ### Calls that take tokens -/

/-- The tokens that the last step adds to a run. -/
def lastToken : Except Unterminated (Option Token) → List Token
  | .ok (some token) => [token]
  | .ok none | .error _ => []

@[simp] theorem append_lastToken_end (tokens : List Token) :
    tokens ++ lastToken (.ok none) = tokens := List.append_nil tokens

@[simp] theorem append_lastToken_error (tokens : List Token) (e : Unterminated) :
    tokens ++ lastToken (.error e) = tokens := List.append_nil tokens

/-- The construct that the last step reports as open. -/
def lastOpen : Except Unterminated (Option Token) → Option Unterminated
  | .ok _ => none
  | .error e => some e

/-- Asking for a token extracts what it passes over and the token that it gives. -/
theorem Advance.extracted_eq (a : Advance) : a.extracted = a.passed ++ lastToken a.result := by
  obtain ⟨passed, result, t⟩ := a
  rcases result with e | - | token <;> rfl

/-- What the reply to a call that takes tokens shows of a run and the step after it. -/
structure Taken (s : Session) (reply : Reply) (last : Except Unterminated (Option Token)) :
    Prop where
  /-- The tokens of the run and of the step are told of, and the session is the one after them. -/
  exists_run : ∃ tokens t, Run s tokens t ∧ t.nextRaw = (last, reply.session) ∧
    tokensOf reply.events = tokens ++ lastToken last
  /-- What the step reports is reported. -/
  open?_eq : reply.answer.open? = lastOpen last

theorem taken_next (s : Session) : s.Taken (s.perform .next) s.next.result := by
  obtain ⟨t, hrun, hlast⟩ := run_next s
  refine ⟨⟨_, t, hrun, hlast, ?_⟩, ?_⟩
  · show tokensOf (extractions _) = _
    rw [tokensOf_extractions]
    exact s.next.extracted_eq
  · show (Answer.token s.next.result).open? = _
    rcases s.next.result with e | token <;> rfl

theorem taken_nextRaw (s : Session) : s.Taken (s.perform .nextRaw) s.nextRaw.1 := by
  refine ⟨⟨[], s, .nil, rfl, ?_⟩, ?_⟩
  · show tokensOf (extractions _) = _
    rw [tokensOf_extractions]
    exact (s.advance true).extracted_eq
  · show (Answer.token s.nextRaw.1).open? = _
    rcases s.nextRaw.1 with e | token <;> rfl

theorem taken_tokens (s : Session) : s.Taken (s.perform .tokens) (s.scan false).ending := by
  obtain ⟨t, hrun, hlast⟩ := run_scan s false
  refine ⟨⟨_, t, hrun, hlast, ?_⟩, ?_⟩
  · show tokensOf (extractions _) = _
    rw [tokensOf_extractions, Scan.ending]
    rcases (s.scan false).error with - | e
    · exact (append_lastToken_end _).symm
    · exact (append_lastToken_error _ e).symm
  · show (Answer.tokens (s.scan false).result).open? = _
    rw [Scan.result, Scan.ending]
    rcases (s.scan false).error with - | e <;> rfl

/-- **Whichever way tokens are asked for, they are taken by a run and one more step.** -/
theorem exists_taken (s : Session) {call : Call} (hcall : call.AsksForTokens) :
    ∃ last, s.Taken (s.perform call) last := by
  cases call with
  | next => exact ⟨_, taken_next s⟩
  | nextRaw => exact ⟨_, taken_nextRaw s⟩
  | item =>
    rw [perform_item]
    exact ⟨_, taken_next s⟩
  | tokens => exact ⟨_, taken_tokens s⟩
  | openText _ | openReads _ | openFile _ _ | bind _ => exact hcall.elim
  | registerDigraph _ | registerSingle _ | close => exact hcall.elim

/-- Asking for tokens keeps the symbols. -/
theorem symbols_perform (hs : s.IsCurrent) {call : Call} (hcall : call.AsksForTokens) :
    (s.perform call).session.symbols = s.symbols := by
  obtain ⟨last, htaken⟩ := exists_taken s hcall
  obtain ⟨tokens, t, hrun, hlast, -⟩ := htaken.exists_run
  exact hrun.symbols_last hs hlast

end Session

end TokenScan
