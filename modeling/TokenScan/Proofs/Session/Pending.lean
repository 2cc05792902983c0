import TokenScan.Proofs.Session.Run
import TokenScan.Session.Call
/-!
# The pending kind is never stale

A session keeps the kind of its next token and does not look for it again when it is asked. That is
sound because every call leaves the kind right: `IsCurrent.perform` goes through the calls, and
`pending_performAll` carries it through any sequence of them, from any symbol table.

Two calls clear the pending kind without looking, an open construct and `close`; both have let go of
all text (`isCurrent_of_pending_eq_none`). A registration looks again only if a kind is pending, and
that is enough: **nothing is pending only where no text is left, and there no table finds a kind**
(`IsCurrent.refresh`).
-/

namespace TokenScan.Session

variable {s : Session}

/-- Looking again puts the pending kind right under any table, if it was right under the last. -/
theorem IsCurrent.refresh (hs : s.IsCurrent) (symbols : SymbolTable) :
    ({ s with symbols } : Session).refresh.IsCurrent := by
  obtain ⟨source, pending, old⟩ := s
  rcases pending with - | k
  · exact isCurrent_of_pending_eq_none rfl (hs.pending_eq_none_iff.1 rfl)
  · rcases source with - | source
    · -- a kind is pending although there is no source
      cases hs
    · exact isCurrent_bind _ _

theorem isCurrent_close (s : Session) : s.close.IsCurrent := by
  refine isCurrent_of_pending_eq_none rfl ?_
  obtain ⟨source, pending, symbols⟩ := s
  cases source with
  | none => rfl
  | some source => exact source.remaining_close

theorem isCurrent_withSymbols (symbols : SymbolTable) : (withSymbols symbols).IsCurrent := rfl

/-- A source that may not have been opened leaves the pending kind right. -/
theorem IsCurrent.bindOpened (hs : s.IsCurrent) (before : List Event)
    (opened : Except OpenError Source) : (s.bindOpened before opened).session.IsCurrent := by
  cases opened with
  | error e => exact hs
  | ok source => exact isCurrent_bind _ _

/-- **Every call leaves the pending kind right.** -/
theorem IsCurrent.perform (hs : s.IsCurrent) (call : Call) :
    (s.perform call).session.IsCurrent := by
  cases call with
  | openText text => exact isCurrent_bind _ _
  | openReads reads => exact hs.bindOpened _ _
  | openFile files path => exact hs.bindOpened _ _
  | bind source => exact isCurrent_bind _ _
  | next => exact hs.next
  | nextRaw => exact hs.nextRaw
  | item => exact hs.next
  | tokens => exact hs.scan false
  | registerDigraph pattern => exact hs.refresh _
  | registerSingle pattern => exact hs.refresh _
  | close => exact isCurrent_close s

/-- Any sequence of calls leaves the pending kind right. -/
theorem IsCurrent.performAll (hs : s.IsCurrent) (calls : List Call) :
    (s.performAll calls).2.IsCurrent := by
  induction calls generalizing s with
  | nil => exact hs
  | cons call calls ih => exact ih (hs.perform call)

/-- Whether calls on a session without a source lead to this one. -/
def IsReachable (s : Session) : Prop :=
  ∃ symbols calls, ((withSymbols symbols).performAll calls).2 = s

theorem IsReachable.isCurrent (h : s.IsReachable) : s.IsCurrent := by
  obtain ⟨symbols, calls, rfl⟩ := h
  exact (isCurrent_withSymbols symbols).performAll calls

/-- **After any calls, the pending kind is the one that looking at the source would give, and the
session is done exactly when no text is left.** -/
theorem pending_performAll (symbols : SymbolTable) (calls : List Call) :
    let s := ((withSymbols symbols).performAll calls).2
    s.pending = s.source.bind (fun source ↦ (source.nextKind s.symbols).1) ∧
      (s.isDone = true ↔ s.source = none ∨ ∃ source, s.source = some source ∧
        source.remaining = []) := by
  intro s
  have hs : s.IsCurrent := (isCurrent_withSymbols symbols).performAll calls
  have hdone : s.isDone = true ↔ s.remaining = [] := by
    rw [← hs.pending_eq_none_iff, isDone, Option.isNone_iff_eq_none]
  clear_value s
  obtain ⟨source, pending, symbols⟩ := s
  cases source with
  | none => exact ⟨hs, hdone.trans (by simp [remaining])⟩
  | some source =>
    refine ⟨?_, hdone.trans (by simp [remaining])⟩
    show pending = (source.nextKind symbols).1
    rw [Source.nextKind_fst]
    exact hs

end TokenScan.Session
