import TokenScan.File.Tree
/-!
# What a byte stream delivers

A byte stream is a list of reads, and whoever reads it stops somewhere: at a read without bytes,
which is the end of the stream, at a failure that lasts, or behind the last read. Up to there every
read *goes on*: it gives bytes, or it is interrupted and gives none. So two questions tell what
comes of a stream, and neither mentions how it is read:

* `Read.delivered`: the bytes of the reads that go on, joined;
* `Read.failure?`: the failure at which the stream stops, if it stops at one.

`Read.receive_eq` says that reading answers just these. `Source.ofReads_eq` puts decoding behind it:
a stream that fails is judged by its failure alone, whatever it had delivered before, and any other
stream by the bytes alone, wherever one read stops and the next one starts. Each outcome has a
lemma that says when it comes about: `Source.ofReads_eq_ok_iff`, `Source.ofReads_eq_encoding_iff`
and `Source.ofReads_eq_read_iff`. A file is a stream of a single read, once it is found
(`FileTree.openSource_of_locate`).
-/

namespace TokenScan

namespace Read

/-- Whether there may be more behind a read: it gave bytes, or was interrupted. -/
def goesOn : Read → Bool
  | bytes data => !data.isEmpty
  | fail error => error.isInterruption

/-- The bytes that a read gave. -/
def data : Read → ByteArray
  | bytes data => data
  | fail _ => .empty

/-- The bytes that reads gave, joined. -/
def joined : List Read → ByteArray
  | [] => .empty
  | read :: rest => read.data ++ joined rest

/-- The bytes that a stream gives before it stops. -/
def delivered (reads : List Read) : ByteArray := joined (reads.takeWhile goesOn)

/-- The failure at which a stream stops, if it stops at one. -/
def failure? (reads : List Read) : Option IoError :=
  match reads.find? (!·.goesOn) with
  | some (fail error) => some error
  | _ => none

section

variable {read : Read} {error : IoError}

theorem delivered_cons_of_goesOn (h : read.goesOn = true) (rest : List Read) :
    delivered (read :: rest) = read.data ++ delivered rest := by
  rw [delivered, List.takeWhile_cons_of_pos h]
  rfl

theorem failure?_cons_of_goesOn (h : read.goesOn = true) (rest : List Read) :
    failure? (read :: rest) = failure? rest := by
  rw [failure?, List.find?_cons_of_neg (by rw [h]; decide)]
  rfl

theorem failure?_fail_cons (h : error.isInterruption = false) (rest : List Read) :
    failure? (fail error :: rest) = some error := by
  have hfind : (fail error :: rest).find? (!·.goesOn) = some (fail error) :=
    List.find?_cons_of_pos (by rw [goesOn, h]; rfl)
  rw [failure?, hfind]

end

/-- **Reading gives what is delivered, unless the stream stops at a failure.** -/
theorem receive_eq (received : ByteArray) (reads : List Read) :
    receive received reads =
      match failure? reads with
      | some error => .error error
      | none => .ok (received ++ delivered reads) := by
  induction reads generalizing received with
  | nil => exact congrArg Except.ok ByteArray.append_empty.symm
  | cons read rest ih =>
    cases read with
    | bytes data =>
      by_cases h : data.isEmpty = true
      · obtain rfl : data = .empty := ByteArray.size_eq_zero_iff.1 (beq_iff_eq.1 h)
        exact congrArg Except.ok ByteArray.append_empty.symm
      · have hmore : (bytes data).goesOn = true := by rw [goesOn, Bool.eq_false_iff.2 h]; rfl
        rw [receive_bytes _ _ (Bool.eq_false_iff.2 h), ih, failure?_cons_of_goesOn hmore,
          delivered_cons_of_goesOn hmore, ByteArray.append_assoc]
        rfl
    | fail error =>
      by_cases h : error.isInterruption = true
      · have hmore : (fail error).goesOn = true := h
        rw [receive, if_pos h, ih, failure?_cons_of_goesOn hmore, delivered_cons_of_goesOn hmore,
          data, ByteArray.empty_append]
      · rw [receive, if_neg h, failure?_fail_cons (Bool.eq_false_iff.2 h)]

/-- What is read in one go is all that is read. -/
theorem receive_single (data : ByteArray) : receive .empty [bytes data] = .ok data := by
  by_cases h : data.isEmpty = true
  · obtain rfl : data = .empty := ByteArray.size_eq_zero_iff.1 (beq_iff_eq.1 h)
    rfl
  · rw [receive_bytes _ _ (Bool.eq_false_iff.2 h), receive_nil, ByteArray.empty_append]

end Read

namespace Source

variable {data : ByteArray} {reads : List Read}

/-- Bytes that encode no text are not decoded. -/
theorem ofBytes_of_forall_ne (h : ∀ text : String, text.toUTF8 ≠ data) :
    ofBytes data = .error .encoding := by
  have hnone : String.fromUTF8? data = none :=
    dif_neg fun hvalid ↦ h (String.fromUTF8 data hvalid) rfl
  rw [ofBytes, hnone]

/-- Bytes are decoded, or they encode no text. -/
theorem ofBytes_cases (data : ByteArray) :
    (∃ text : String, text.toUTF8 = data ∧ ofBytes data = .ok (ofText text)) ∨
      (∀ text : String, text.toUTF8 ≠ data) ∧ ofBytes data = .error .encoding := by
  by_cases h : ∃ text : String, text.toUTF8 = data
  · obtain ⟨text, rfl⟩ := h
    exact .inl ⟨text, rfl, ofBytes_toUTF8 text⟩
  · have hnone : ∀ text : String, text.toUTF8 ≠ data := fun text htext ↦ h ⟨text, htext⟩
    exact .inr ⟨hnone, ofBytes_of_forall_ne hnone⟩

/-- **A stream that stops at a failure is judged by it, any other one by its bytes.** -/
theorem ofReads_eq (reads : List Read) :
    ofReads reads =
      match Read.failure? reads with
      | some error => .error (if error.isInvalidData then .encoding else .read error)
      | none => ofBytes (Read.delivered reads) := by
  rw [ofReads, Read.receive_eq, ByteArray.empty_append]
  cases Read.failure? reads <;> rfl

theorem ofReads_of_failure {error : IoError} (h : Read.failure? reads = some error) :
    ofReads reads = .error (if error.isInvalidData then .encoding else .read error) := by
  rw [ofReads_eq, h]

theorem ofReads_of_no_failure (h : Read.failure? reads = none) :
    ofReads reads = ofBytes (Read.delivered reads) := by
  rw [ofReads_eq, h]

/-- What can come of a byte stream. -/
theorem ofReads_cases (reads : List Read) :
    (Read.failure? reads = none ∧ ∃ text : String, text.toUTF8 = Read.delivered reads ∧
        ofReads reads = .ok (ofText text)) ∨
      (Read.failure? reads = none ∧ (∀ text : String, text.toUTF8 ≠ Read.delivered reads) ∧
        ofReads reads = .error .encoding) ∨
      (∃ error, Read.failure? reads = some error ∧ error.isInvalidData = true ∧
        ofReads reads = .error .encoding) ∨
      ∃ error, Read.failure? reads = some error ∧ error.isInvalidData = false ∧
        ofReads reads = .error (.read error) := by
  rcases hfailure : Read.failure? reads with _ | error
  · rw [ofReads_of_no_failure hfailure]
    rcases ofBytes_cases (Read.delivered reads) with h | h
    · exact .inl ⟨rfl, h⟩
    · exact .inr (.inl ⟨rfl, h⟩)
  · rw [ofReads_of_failure hfailure]
    cases hdata : error.isInvalidData with
    | true => exact .inr (.inr (.inl ⟨error, rfl, hdata, rfl⟩))
    | false => exact .inr (.inr (.inr ⟨error, rfl, hdata, rfl⟩))

/-- **A stream opens if and only if it does not fail and its bytes encode a text.** -/
theorem ofReads_eq_ok_iff {source : Source} :
    ofReads reads = .ok source ↔ Read.failure? reads = none ∧
      ∃ text : String, text.toUTF8 = Read.delivered reads ∧ source = ofText text := by
  constructor
  · intro hok
    rcases ofReads_cases reads with ⟨hnone, text, htext, h⟩ | ⟨-, -, h⟩ | ⟨_, -, -, h⟩ | ⟨_, -, -, h⟩
    · exact ⟨hnone, text, htext, Except.ok.inj (hok.symm.trans h)⟩
    all_goals cases hok.symm.trans h
  · rintro ⟨hnone, text, htext, rfl⟩
    rw [ofReads_of_no_failure hnone, ← htext, ofBytes_toUTF8]

/-- **A stream is badly encoded if and only if its bytes encode no text, or it stops at a failure by
which the reader says so.** -/
theorem ofReads_eq_encoding_iff :
    ofReads reads = .error .encoding ↔
      (Read.failure? reads = none ∧ ∀ text : String, text.toUTF8 ≠ Read.delivered reads) ∨
        ∃ error, Read.failure? reads = some error ∧ error.isInvalidData = true := by
  constructor
  · intro herror
    rcases ofReads_cases reads with
      ⟨-, text, -, h⟩ | ⟨hnone, htext, -⟩ | ⟨error, hsome, hdata, -⟩ | ⟨_, -, -, h⟩
    · cases herror.symm.trans h
    · exact .inl ⟨hnone, htext⟩
    · exact .inr ⟨error, hsome, hdata⟩
    · cases herror.symm.trans h
  · rintro (⟨hnone, htext⟩ | ⟨error, hsome, hdata⟩)
    · rw [ofReads_of_no_failure hnone, ofBytes_of_forall_ne htext]
    · rw [ofReads_of_failure hsome, if_pos hdata]

/-- **A failure is handed on if and only if the stream stops at it** and it is no judgement on the
bytes. -/
theorem ofReads_eq_read_iff {error : IoError} :
    ofReads reads = .error (.read error) ↔
      Read.failure? reads = some error ∧ error.isInvalidData = false := by
  constructor
  · intro herror
    rcases ofReads_cases reads with
      ⟨-, text, -, h⟩ | ⟨-, -, h⟩ | ⟨_, -, -, h⟩ | ⟨failure, hsome, hdata, h⟩
    all_goals cases herror.symm.trans h
    exact ⟨hsome, hdata⟩
  · rintro ⟨hsome, hdata⟩
    rw [ofReads_of_failure hsome, hdata]
    rfl

/-- No path is at fault where a stream is read. -/
theorem ofReads_ne_access (path : OsString) (error : IoError) :
    ofReads reads ≠ .error (.access path error) := by
  intro herror
  rcases ofReads_cases reads with ⟨-, _, -, h⟩ | ⟨-, -, h⟩ | ⟨_, -, -, h⟩ | ⟨_, -, -, h⟩
  all_goals cases herror.symm.trans h

end Source

/-! ### Files -/

/-- **What stands at a path decides whether it opens**, and why not. -/
theorem FileTree.openSource_of_locate (t : FileTree) (path : OsString) :
    (∀ error, t.locate path = .error error → t.openSource path = .error (.access path error)) ∧
      (t.locate path = .ok .directory →
        t.openSource path = .error (.read (.os .isADirectory))) ∧
      (∀ data, t.locate path = .ok (.file data) → (∀ text : String, text.toUTF8 ≠ data) →
        t.openSource path = .error .encoding) ∧
      ∀ text : String, t.locate path = .ok (.file text.toUTF8) →
        t.openSource path = .ok (.ofText text) := by
  refine ⟨fun error h ↦ ?_, fun h ↦ ?_, fun data h hnone ↦ ?_, fun text h ↦ ?_⟩
  · rw [openSource, h]
  · rw [openSource, h]
    rfl
  · rw [openSource, h]
    show Source.ofReads [.bytes data] = _
    rw [Source.ofReads, Read.receive_single]
    exact Source.ofBytes_of_forall_ne hnone
  · rw [openSource, h]
    exact Source.ofReads_eq_ofText (Read.receive_single _)

end TokenScan
