import TokenScan.Proofs.Session.Lookahead
import TokenScan.Proofs.Source.Delivery
/-!
# Opening a text in one way or another

A text is handed over as it is, as the reads of a byte stream, or as the bytes of a file. The three
ways meet where the source is made: a stream that does not fail is judged by the bytes that it
delivers (`Source.ofReads_eq`), a file is read as one such stream, and bytes that encode a text give
the source over that text. So whatever is asked of the session afterwards is answered alike
(`Session.opened_eq_openText`), and a stream that fails leaves the session as it was
(`Session.openReads_iff`).

The source over a text is fed by a `TextStream`, which keeps a byte position. What a session or an
operation does to a source is to look ahead and to consume (`Source.Reads`), and either one asks the
stream for characters one at a time. `Source.Reads.follows` tells where the stream stands then, as
`TextStream.after` has it, and a stream that started between characters is between characters still
(`TextStream.IsBetween.after`).
-/

namespace TokenScan

/-! ### Streams that are asked for many characters -/

namespace TextStream

/-- A stream after it was asked for a number of characters. -/
def after (s : TextStream) : Nat → TextStream
  | 0 => s
  | n + 1 => (s.after n).next.2

/-- A stream that is asked for characters passes over them, up to the end of the text. -/
theorem IsBetween.after {s : TextStream} {passed rest : List Char} (h : s.IsBetween passed rest)
    (n : Nat) : (s.after n).IsBetween (passed ++ rest.take n) (rest.drop n) := by
  induction n with
  | zero =>
    rw [List.take_zero, List.append_nil]
    exact h
  | succ n ih =>
    show (s.after n).next.2.IsBetween _ _
    rw [List.take_add_one, ← List.head?_drop, ← List.tail_drop, ← List.append_assoc]
    cases hdrop : rest.drop n with
    | nil =>
      rw [hdrop] at ih
      rw [ih.next_nil, List.head?_nil, Option.toList_none, List.append_nil]
      exact ih
    | cons c rest =>
      rw [hdrop] at ih
      exact ih.next.2

/-- **Over a text, a stream is at the boundary between two characters all the time.** -/
theorem isValid_after_ofText (mark : Char) (text : String) (n : Nat) :
    ((ofText mark text).after n).text = text ∧
      ((ofText mark text).after n).position.IsValid text := by
  obtain ⟨passed, rest, htext, h⟩ : ∃ passed rest, text = String.ofList (passed ++ rest) ∧
      (ofText mark text).IsBetween passed rest := by
    rcases isBetween_ofText mark text with ⟨rest, htext, h⟩ | ⟨-, h⟩
    · exact ⟨_, _, by rw [List.singleton_append, ← htext, String.ofList_toList], h⟩
    · exact ⟨_, _, String.ofList_toList.symm, h⟩
  have hn := h.after n
  have hsame : ((ofText mark text).after n).text = text := by
    rw [hn.text, List.append_assoc, List.take_append_drop, ← htext]
  have hvalid := hn.isValid
  rw [hsame] at hvalid
  exact ⟨hsame, hvalid⟩

end TextStream

/-! ### Sources over a stream -/

/-- A request to a feed over a stream is a request to the stream. -/
theorem Feed.request_ofStream (t : TextStream) (n : Nat) :
    ({ ofStream t with requests := n } : Feed).request =
      (t.next.1, { ofStream t.next.2 with requests := n + 1 }) := by
  rcases h : t.next with ⟨_ | c, u⟩
  · obtain rfl : u = t := TextStream.eq_of_next_none h
    have hends : (ofStream u).answers = [] := by
      rw [ofStream, TextStream.rest_of_next_none h]
      rfl
    rw [request]
    simp only [hends]
  · have hgoes : (ofStream t).answers = some c :: (ofStream u).answers := by
      rw [ofStream, TextStream.rest_of_next_some h]
      rfl
    rw [request]
    simp only [hgoes]

/-- Requests to a feed over a stream move the stream. -/
theorem Feed.requestMany_ofStream (t : TextStream) (n : Nat) :
    ((ofStream t).requestMany n).2 = { ofStream (t.after n) with requests := n } := by
  induction n with
  | zero => rfl
  | succ n ih =>
    show ((ofStream t).requestMany n).2.request.2 = _
    rw [ih, request_ofStream]
    rfl

namespace Source

variable {near : Nat → Prop} {text : String} {u : Source}

/-- Where the stream over a text stands when a source has asked it for a number of characters. -/
def streamAt (text : String) (requests : Nat) : TextStream :=
  (TextStream.ofText byteOrderMark text).after requests

/-- Whether a source is fed by the stream over a text, and the stream is between two characters of
it. -/
structure Follows (u : Source) (text : String) : Prop where
  /-- The feed gives what the stream has still to give. -/
  feed : u.feed =
    { Feed.ofStream (streamAt text u.feed.requests) with requests := u.feed.requests }
  /-- The stream is over the text. -/
  whole : (streamAt text u.feed.requests).text = text
  /-- The position is at the boundary between two characters, or at an end. -/
  position : (streamAt text u.feed.requests).position.IsValid text

/-- **Looking and consuming move the stream from character to character.** -/
theorem Reads.follows (h : (ofText text).Reads near u) : u.Follows text := by
  obtain ⟨consumed, -, haccounts⟩ := (Accounts.ofFeed _).reads h
  have hfeed := congrArg Prod.snd haccounts.requestMany_eq
  rw [Feed.requestMany_ofStream] at hfeed
  obtain ⟨htext, hposition⟩ := TextStream.isValid_after_ofText byteOrderMark text u.feed.requests
  exact ⟨hfeed.symm, htext, hposition⟩

/-- What a source over a text gives is the text, but for one byte order mark at its start. -/
theorem toList_eq_of_ofText (text : String) :
    text.toList = byteOrderMark :: (ofText text).remaining ∨
      text.toList = (ofText text).remaining ∧ text.toList.head? ≠ some byteOrderMark := by
  have hremaining : (ofText text).remaining = (TextStream.ofText byteOrderMark text).rest :=
    Feed.content_ofList _
  rcases TextStream.isBetween_ofText byteOrderMark text with ⟨after, htext, h⟩ | ⟨hhead, h⟩
  · exact .inl (by rw [hremaining, h.rest_eq, htext])
  · exact .inr ⟨by rw [hremaining, h.rest_eq], hhead⟩

end Source

/-! ### Opening -/

namespace Session

open Source (byteOrderMark)

/-- **What comes of a byte stream is told by the failure at which it stops, and else by its bytes.**

A stream opens if it does not fail and its bytes encode a text. If they do not, or if it stops at a
failure by which the reader says that data is invalid, it is called badly encoded, and any other
failure is handed on. In no case but the first is anything left changed. -/
theorem openReads_iff (reads : List Read) :
    (∀ source, Source.ofReads reads = .ok source ↔
      Read.failure? reads = none ∧
        ∃ text : String, text.toUTF8 = Read.delivered reads ∧ source = .ofText text) ∧
      (Source.ofReads reads = .error .encoding ↔
        (Read.failure? reads = none ∧ ∀ text : String, text.toUTF8 ≠ Read.delivered reads) ∨
          ∃ error, Read.failure? reads = some error ∧ error.isInvalidData = true) ∧
      (∀ error, Source.ofReads reads = .error (.read error) ↔
        Read.failure? reads = some error ∧ error.isInvalidData = false) ∧
      (∀ path error, Source.ofReads reads ≠ .error (.access path error)) ∧
      ∀ (s : Session) (error : OpenError), Source.ofReads reads = .error error →
        s.perform (.openReads reads) = ⟨.notOpened error, [], s⟩ := by
  refine ⟨fun _ ↦ Source.ofReads_eq_ok_iff, Source.ofReads_eq_encoding_iff,
    fun _ ↦ Source.ofReads_eq_read_iff, Source.ofReads_ne_access, fun s error h ↦ ?_⟩
  exact perform_openReads_error h

/-- A stream that fails is not always told from one with bad bytes: a reader that stops behind good
bytes and calls its own data invalid is taken to have given bad ones. -/
theorem not_forall_ofReads_eq_read_of_failure :
    ¬∀ (reads : List Read) (error : IoError), Read.failure? reads = some error →
      Source.ofReads reads = .error (.read error) := by
  intro h
  let reads : List Read :=
    [.bytes "int x;\n".toUTF8, .fail (.reported .invalidData "corrupt deflate stream")]
  have hencoding : Source.ofReads reads = .error .encoding := rfl
  cases hencoding.symm.trans (h reads _ rfl)

/-- **A text is the same however it is opened.**

Reads that do not fail and deliver the bytes of a text, cut anywhere and interrupted at will, open
the source over the text, and so does a file with these bytes. Any calls are answered alike
whichever way the text was opened, and leave the same session behind. The source stands on line one
and gives the characters of the text, but for one byte order mark at the start. The stream that
feeds it is at the boundary between two characters, whatever operations the source has gone through
and whatever the session was asked, short of letting go of the source. -/
theorem opened_eq_openText (text : String) :
    (∀ reads, Read.failure? reads = none → Read.delivered reads = text.toUTF8 →
      Source.ofReads reads = .ok (.ofText text) ∧
        ∀ (s : Session) (calls : List Call),
          s.performAll (.openReads reads :: calls) = s.performAll (.openText text :: calls)) ∧
      (∀ (files : FileTree) (path : OsString), files.locate path = .ok (.file text.toUTF8) →
        files.openSource path = .ok (.ofText text) ∧
          ∀ (s : Session) (calls : List Call),
            s.performAll (.openFile files path :: calls) =
              s.performAll (.openText text :: calls)) ∧
      (Source.ofText text).line = 1 ∧
      (text.toList = byteOrderMark :: (Source.ofText text).remaining ∨
        text.toList = (Source.ofText text).remaining ∧
          text.toList.head? ≠ some byteOrderMark) ∧
      (∀ ops : List Operation, (∀ op ∈ ops, op ≠ .close) →
        (operateAll Source.operate (.ofText text) ops).2.Follows text) ∧
      ∀ (s : Session) (calls : List Call), (∀ call ∈ calls, call.KeepsSource) →
        ∃ u, (s.performAll (.openText text :: calls)).2.source = some u ∧ u.Follows text := by
  refine ⟨fun reads hlasting hreads ↦ ?_, fun files path hfile ↦ ?_, rfl,
    Source.toList_eq_of_ofText text, fun ops hops ↦ (Source.reads_operateAll _ hops).follows,
    fun s calls hcalls ↦ ?_⟩
  · have hopens : Source.ofReads reads = .ok (.ofText text) :=
      Source.ofReads_eq_ok_iff.2 ⟨hlasting, text, hreads.symm, rfl⟩
    refine ⟨hopens, fun s calls ↦ ?_⟩
    simp only [performAll, perform, hopens, bindOpened]
  · obtain ⟨-, -, -, hlocated⟩ := files.openSource_of_locate path
    have hopens := hlocated text hfile
    refine ⟨hopens, fun s calls ↦ ?_⟩
    simp only [performAll, perform, hopens, bindOpened, bindTelling]
  · obtain ⟨u, hu, hsource⟩ := reads_performAll s (.ofText text) hcalls
    exact ⟨u, hu, hsource.follows⟩

/-- Two marks and a letter of two bytes, cut in the middle of each, with interruptions. -/
theorem opened_eq_openText_of_two_marks :
    let text := "\uFEFF\uFEFFé\n"
    let interrupted : Read := .fail (.reported .interrupted "try again")
    let reads : List Read := [interrupted, .bytes ⟨#[0xEF, 0xBB]⟩, interrupted,
      .bytes ⟨#[0xBF, 0xEF]⟩, .bytes ⟨#[0xBB, 0xBF, 0xC3]⟩, interrupted, .bytes ⟨#[0xA9, 0x0A]⟩]
    let path : OsString := .ofString "a.c"
    let files := FileTree.withFile {} path text.toUTF8
    Read.failure? reads = none ∧ Read.delivered reads = text.toUTF8 ∧
      files.locate path = .ok (.file text.toUTF8) ∧
      (∀ s : Session, s.performAll [.openReads reads, .tokens] =
        s.performAll [.openFile files path, .tokens]) ∧
      (Source.ofText text).remaining = ['\uFEFF', 'é', '\n'] := by
  intro text interrupted reads path files
  have hlasting : Read.failure? reads = none := rfl
  have hreads : Read.delivered reads = text.toUTF8 := by decide +kernel
  have hfile : files.locate path = .ok (.file text.toUTF8) := by rfl
  obtain ⟨hopenReads, hopenFile, -, hmark, -⟩ := opened_eq_openText text
  refine ⟨hlasting, hreads, hfile, fun s ↦ ?_, ?_⟩
  · rw [(hopenReads reads hlasting hreads).2, (hopenFile files path hfile).2]
  · have htext : text.toList = ['\uFEFF', '\uFEFF', 'é', '\n'] := by decide +kernel
    rcases hmark with h | ⟨-, h⟩
    · exact (List.cons.inj (h.symm.trans htext)).2
    · exact absurd (htext ▸ rfl) h

end Session

end TokenScan
