import TokenScan.Event
import TokenScan.File.Tree
import TokenScan.Session.Basic
/-!
# Calls on a session

Everything that can be asked of a session is a `Call`, and `perform` answers it. The answer comes
with the events that the call gives rise to, and with the session afterwards. `performAll` answers
calls one after the other.

A source that cannot be opened leaves the session as it was, and gives rise to no event
(`perform_openReads_error`).
-/

namespace TokenScan

/-- What can be asked of a session. -/
inductive Call where
  /-- Bind a text. -/
  | openText (text : String)
  /-- Bind the text that a byte stream delivers. -/
  | openReads (reads : List Read)
  /-- Bind a file. -/
  | openFile (files : FileTree) (path : OsString)
  /-- Bind a source. -/
  | bind (source : Source)
  /-- The next token that does not start with white space. -/
  | next
  /-- The next token. -/
  | nextRaw
  /-- The next token that does not start with white space, as an item of a stream. -/
  | item
  /-- All the tokens that are left and do not start with white space. -/
  | tokens
  /-- Register a digraph. -/
  | registerDigraph (pattern : String)
  /-- Register a single symbol. -/
  | registerSingle (pattern : String)
  /-- Let go of the source. -/
  | close

/-- What a session answers. -/
inductive Answer where
  /-- It is done. -/
  | done
  /-- The source cannot be opened. -/
  | notOpened (error : OpenError)
  /-- A token, or nothing at the end, or the construct that was left open. -/
  | token (result : Except Unterminated (Option Token))
  /-- Tokens, or the construct that was left open. -/
  | tokens (result : Except Unterminated (List Token))
  /-- Whether the pattern is new. -/
  | added (new : Bool)

/-- An answer, the events it comes with, and the session afterwards. -/
structure Reply where
  /-- The answer. -/
  answer : Answer
  /-- The events, in order. -/
  events : List Event
  /-- The session. -/
  session : Session

namespace Session

/-- Binds a source and tells of it. -/
def bindTelling (s : Session) (before : List Event) (source : Source) : Reply :=
  ⟨.done, before ++ [.bound (s.bind source).pending], s.bind source⟩

/-- Binds a source that may not have been opened. -/
def bindOpened (s : Session) (before : List Event) : Except OpenError Source → Reply
  | .ok source => s.bindTelling before source
  | .error error => ⟨.notOpened error, [], s⟩

/-- The events of extracting tokens. -/
def extractions (tokens : List Token) : List Event := tokens.map .extracted

/-- The tokens that asking for one has extracted. -/
def Advance.extracted (a : Advance) : List Token :=
  a.passed ++
    match a.result with
    | .ok (some token) => [token]
    | _ => []

/-- Asks for one token and tells of those extracted. -/
def advanceTelling (s : Session) (raw : Bool) : Reply :=
  let a := s.advance raw
  ⟨.token a.result, extractions a.extracted, a.session⟩

/-- Answers a call. -/
def perform (s : Session) : Call → Reply
  | .openText text => s.bindTelling [] (.ofText text)
  | .openReads reads => s.bindOpened [] (Source.ofReads reads)
  | .openFile files path => s.bindOpened [.openedFile path] (files.openSource path)
  | .bind source => s.bindTelling [] source
  | .next => s.advanceTelling false
  | .nextRaw => s.advanceTelling true
  | .item => ⟨.token (s.next.item.mapM id), extractions s.next.extracted, s.next.session⟩
  | .tokens =>
    let r := s.scan false
    ⟨.tokens r.result, extractions r.extracted, r.session⟩
  | .registerDigraph pattern =>
    let (new, t) := s.registerDigraph pattern
    ⟨.added new, [.registeringDigraph pattern], t⟩
  | .registerSingle pattern =>
    let (new, t) := s.registerSingle pattern
    ⟨.added new, [.registeringSingle pattern], t⟩
  | .close => ⟨.done, (s.source.map fun source ↦ Event.closed source.line).toList, s.close⟩

/-- Answers calls one after the other. -/
def performAll (s : Session) : List Call → List Answer × Session
  | [] => ([], s)
  | call :: rest =>
    let reply := s.perform call
    let (answers, last) := reply.session.performAll rest
    (reply.answer :: answers, last)

/-- The item of a stream says what asking for a token came to. -/
theorem Advance.mapM_item (a : Advance) : a.item.mapM id = a.result := by
  rcases hr : a.result with e | - | token <;> rw [Advance.item, hr] <;> rfl

/-- A stream of tokens gives what asking for them one at a time gives. -/
theorem perform_item (s : Session) : s.perform .item = s.perform .next := by
  show (⟨.token (s.next.item.mapM id), _, _⟩ : Reply) = _
  rw [s.next.mapM_item]
  rfl

theorem perform_openReads_error {s : Session} {reads : List Read} {error : OpenError}
    (h : Source.ofReads reads = .error error) :
    s.perform (.openReads reads) = ⟨.notOpened error, [], s⟩ := by
  simp only [perform, h, bindOpened]

theorem perform_openFile_error {s : Session} {files : FileTree} {path : OsString}
    {error : OpenError} (h : files.openSource path = .error error) :
    s.perform (.openFile files path) = ⟨.notOpened error, [], s⟩ := by
  simp only [perform, h, bindOpened]

end Session

end TokenScan
