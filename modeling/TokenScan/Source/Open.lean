import TokenScan.IoError
import TokenScan.Source.Basic
import TokenScan.Text.OsString
/-!
# Opening byte streams

Text arrives as bytes, in reads of any size, and a read may fail. `receive` puts the bytes of all
reads together, up to a read that gives none, which is how a stream says that it has ended. An
interrupted read is simply tried again, and any other failure ends the reception. Where one read
stops and the next one starts says nothing about the text (`receive_bytes`): the bytes are decoded
together, as UTF-8, when all of them are there (`ofReads_eq_ofText`).

A source cannot be opened for one of three causes, an `OpenError`. A failed read comes before bad
bytes, as decoding only starts at the end of the input.
-/

namespace TokenScan

/-- What one read of a byte stream gives. -/
inductive Read where
  /-- Some bytes, or none at the end of the stream. -/
  | bytes (data : ByteArray)
  /-- A failure. -/
  | fail (error : IoError)

/-- Why a source cannot be opened. -/
inductive OpenError where
  /-- The file cannot be opened. -/
  | access (path : OsString) (error : IoError)
  /-- A read failed. -/
  | read (error : IoError)
  /-- The bytes are not UTF-8. -/
  | encoding
  deriving DecidableEq, Repr

/-- What a user is told when a source cannot be opened. -/
def OpenError.message : OpenError → String
  | access path error => "cannot open `" ++ path.display ++ "`: " ++ error.message
  | read error => "failed to read source: " ++ error.message
  | encoding => "source is not valid UTF-8 text"

/-- Whether a failed read is to be tried again. -/
def IoError.isInterruption : IoError → Bool
  | .reported .interrupted _ => true
  | _ => false

/-- Whether a failure says that the bytes are not what they should be. -/
def IoError.isInvalidData : IoError → Bool
  | .reported .invalidData _ => true
  | _ => false

namespace Read

/-- All the bytes that reads give, added to those already there, or the first lasting failure.
Nothing is read after a read without bytes. -/
def receive (received : ByteArray) : List Read → Except IoError ByteArray
  | [] => .ok received
  | bytes data :: rest => if data.isEmpty then .ok received else receive (received ++ data) rest
  | fail error :: rest => if error.isInterruption then receive received rest else .error error

@[simp] theorem receive_nil (received : ByteArray) : receive received [] = .ok received := rfl

theorem receive_bytes (received : ByteArray) {data : ByteArray} (rest : List Read)
    (h : data.isEmpty = false) :
    receive received (bytes data :: rest) = receive (received ++ data) rest :=
  if_neg (by rw [h]; exact Bool.false_ne_true)

end Read

namespace Source

/-- A source over the text that bytes encode. -/
def ofBytes (data : ByteArray) : Except OpenError Source :=
  match String.fromUTF8? data with
  | some text => .ok (ofText text)
  | none => .error .encoding

/-- A source over the text that a byte stream delivers. A reader that reports bad data is taken at
its word: the bytes are not text. -/
def ofReads (reads : List Read) : Except OpenError Source :=
  match Read.receive .empty reads with
  | .ok data => ofBytes data
  | .error error => .error (if error.isInvalidData then .encoding else .read error)

theorem ofBytes_toUTF8 (text : String) : ofBytes text.toUTF8 = .ok (ofText text) := by
  have h : String.fromUTF8? text.toUTF8 = some text := dif_pos text.isValidUTF8
  rw [ofBytes, h]

/-- Reads that deliver the bytes of a text open the source over that text. -/
theorem ofReads_eq_ofText {reads : List Read} {text : String}
    (h : Read.receive .empty reads = .ok text.toUTF8) : ofReads reads = .ok (ofText text) := by
  rw [ofReads, h]
  exact ofBytes_toUTF8 text

end Source

end TokenScan
