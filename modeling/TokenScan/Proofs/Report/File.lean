import TokenScan.Proofs.Session.Attribution
import TokenScan.Proofs.Source.Delivery
import TokenScan.Report.File
/-!
# What is reported of a file

Scanning a file goes through three layers: the file is found and read, its bytes are decoded, and
its text is scanned to the end. Here they are put together.

* `FileTree.openSource_of_locate` tells the first two by what stands at the path: nothing that can be
  opened, a directory, bytes that are no text, or the bytes of a text. Only the last one opens, and
  the source is the one over that text.
* `Session.trail_scan` tells the third one: a scan is a trail, so what is known of trails, that they
  conserve the text (`Session.Trail.conserved`) and bear the right lines (`Session.Trail.located`),
  holds of a scan to the end. The line on which it ends counts the whole text, even if a construct is
  open, because an open construct consumes the text that it does not give back.

`FileScan.ofFile_reports` says what comes of it.
-/

namespace TokenScan

/-! ### From a text to its tokens -/

namespace Session

variable {s : Session}

/-- **A scan is a trail.** -/
theorem trail_scan (s : Session) (raw : Bool) :
    Trail s (s.scan raw).extracted (s.scan raw).error.toList (s.scan raw).session := by
  obtain ⟨t, hrun, hlast⟩ := run_scan s raw
  have htrail := hrun.trail.ask hlast
  rwa [Scan.lastOpen_ending, Scan.lastToken_ending, List.nil_append, List.append_nil] at htrail

/-- **A scan ends on the line that the whole text leads to**, whether or not a construct is open. -/
theorem line_scan (hs : s.IsCurrent) (raw : Bool) :
    (s.scan raw).session.line = lineAfter s.line s.remaining := by
  obtain ⟨consumed, hconsumed, hline⟩ := ((trail_scan s raw).located hs).last
  rw [remaining_scan hs raw, List.append_nil] at hconsumed
  rw [hline, hconsumed]

/-- **A scan to the end gives the text back.** -/
theorem texts_scan_of_error_eq_none (hs : s.IsCurrent) (h : (s.scan true).error = none) :
    texts (s.scan true).tokens = s.remaining := by
  have htext := (trail_scan s true).conserved hs
  rw [h, remaining_scan hs true, extracted_scan] at htext
  generalize s.remaining = cs at htext
  cases htext with
  | kept htext => rw [htext, List.append_nil]

/-- **A scan that a construct ends gives back what is in front of the construct**, which is reported
on the line that this leads to. -/
theorem texts_scan_of_error_eq_some (hs : s.IsCurrent) {e : Unterminated}
    (h : (s.scan true).error = some e) :
    (∃ missing, missing ≠ [] ∧ texts (s.scan true).tokens ++ missing = s.remaining) ∧
      e.line = lineAfter s.line (texts (s.scan true).tokens) := by
  have hmem : e ∈ (s.scan true).error.toList := h ▸ List.mem_singleton_self e
  have htrail := trail_scan s true
  rw [extracted_scan] at htrail
  obtain ⟨c, missing, -, hopen, hmissing⟩ := (htrail.conserved hs).of_mem hmem
  exact ⟨⟨missing, hopen.ne_nil, hmissing⟩, (htrail.located hs).reports e hmem⟩

/-- A scan gives the tokens of the raw scan that are asked for, and ends as it does. -/
theorem scan_eq_filter (s : Session) (raw : Bool) :
    (s.scan raw).tokens = (s.scan true).tokens.filter (isWanted raw) ∧
      (s.scan raw).error = (s.scan true).error := by
  cases raw with
  | true => exact ⟨(List.filter_eq_self.2 fun _ _ ↦ rfl).symm, rfl⟩
  | false =>
    obtain ⟨htokens, herror, -⟩ := s.scan_false
    exact ⟨htokens, herror⟩

end Session

/-! ### The report -/

namespace FileScan

open Session

/-- The report of a file that cannot be opened. -/
def unopened (path : OsString) (error : OpenError) : FileScan :=
  { path, tokens := [], lines := 0, failure := some (.opening error) }

/-- Whether a report is true to a text. -/
structure Reports (symbols : SymbolTable) (raw : Bool) (cs : List Char) (scan : FileScan) :
    Prop where
  /-- The tokens are all those that the grammar cuts off the text, as far as they are asked for, up
  to the construct that is reported if there is one. -/
  tokens : ∃ tokens open?, Segmentation symbols 1 cs tokens open? ∧
    scan.tokens = tokens.filter (isWanted raw) ∧ scan.failure = open?.map .scanning
  /-- The lines are those of the whole text. -/
  lines : 1 + cs.count '\n' < UInt32.size → scan.lines.toNat = 1 + cs.count '\n'
  /-- Without a failure, the tokens give the text back. -/
  whole : raw = true → scan.failure = none → texts scan.tokens = cs
  /-- Otherwise they give back what is in front of the construct, which bears its line. -/
  part : raw = true → ∀ failure, scan.failure = some failure →
    texts scan.tokens <+: cs ∧ texts scan.tokens ≠ cs ∧
      ∃ e, failure = .scanning e ∧ (1 + cs.count '\n' < UInt32.size →
        e.line.toNat = 1 + (texts scan.tokens).count '\n')

/-- **The report on a source over a text is true to the text.** -/
theorem reports_ofText (path : OsString) (symbols : SymbolTable) (raw : Bool) (text : String) :
    Reports symbols raw (Source.withoutMark text.toList)
      (ofOpened path symbols raw (.ok (.ofText text))).1 := by
  have hs : ((withSymbols symbols).bind (.ofText text)).IsCurrent := isCurrent_bind _ _
  have hcut := segmentation_scan hs
  have hremaining : ((withSymbols symbols).bind (.ofText text)).remaining =
      Source.withoutMark text.toList := by
    rw [remaining_bind, Source.remaining_ofText]
  have hline : ((withSymbols symbols).bind (.ofText text)).line = 1 := Source.line_nextKind _ _
  rw [symbols_bind, hline, hremaining] at hcut
  refine ⟨?_, ?_, ?_, ?_⟩
  · obtain ⟨htokens, herror⟩ := scan_eq_filter ((withSymbols symbols).bind (.ofText text)) raw
    exact ⟨_, _, hcut, htokens, congrArg (Option.map Failure.scanning) herror⟩
  · intro hlt
    show (Scan.session _).line.toNat = _
    rw [line_scan hs raw, hremaining, hline]
    exact toNat_lineAfter hlt
  · rintro rfl hnone
    have htexts := texts_scan_of_error_eq_none hs (Option.map_eq_none_iff.1 hnone)
    rwa [hremaining] at htexts
  · rintro rfl failure hfailure
    obtain ⟨e, herror, rfl⟩ := Option.map_eq_some_iff.1 hfailure
    obtain ⟨⟨missing, hne, htexts⟩, hat⟩ := texts_scan_of_error_eq_some hs herror
    rw [hremaining] at htexts
    rw [hline] at hat
    refine ⟨⟨missing, htexts⟩, ?_, e, rfl, fun hlt ↦ ?_⟩
    · intro hall
      exact hne (List.append_right_eq_self.1 (htexts.trans hall.symm))
    · rw [hat]
      refine toNat_lineAfter (Nat.lt_of_le_of_lt ?_ hlt)
      rw [← htexts, List.count_append]
      exact Nat.add_le_add_left (Nat.le_add_right _ _) 1

/-- **A scan reports each file faithfully.** A file that cannot be opened, for whatever cause, has no
tokens and no lines: nothing that can be opened stands at its path, or a directory, which cannot be
read, or its bytes are no text. Any other file is reported as its text has it, without a byte order
mark at its start. -/
theorem ofFile_reports (files : FileTree) (symbols : SymbolTable) (raw : Bool) (path : OsString) :
    let scan := (ofFile files symbols raw path).1
    (∀ error, files.openSource path = .error error → scan = unopened path error) ∧
      (∀ error, files.locate path = .error error → scan = unopened path (.access path error)) ∧
      (files.locate path = .ok .directory →
        scan = unopened path (.read (.os .isADirectory))) ∧
      (∀ data, files.locate path = .ok (.file data) → (∀ text : String, text.toUTF8 ≠ data) →
        scan = unopened path .encoding) ∧
      ∀ text : String, files.locate path = .ok (.file text.toUTF8) →
        scan.path = path ∧ scan.Reports symbols raw (Source.withoutMark text.toList) := by
  intro scan
  have hunopened : ∀ error, files.openSource path = .error error →
      scan = unopened path error := fun error h ↦ ofFile_of_error h symbols raw
  obtain ⟨haccess, hdirectory, hencoding, htext⟩ := files.openSource_of_locate path
  refine ⟨hunopened, fun error h ↦ hunopened _ (haccess error h),
    fun h ↦ hunopened _ (hdirectory h),
    fun data h hnone ↦ hunopened _ (hencoding data h hnone), fun text h ↦ ?_⟩
  have hscan : scan = (ofOpened path symbols raw (.ok (.ofText text))).1 :=
    ofFile_of_ok (htext text h) symbols raw
  rw [hscan]
  exact ⟨rfl, reports_ofText path symbols raw text⟩

/-- The lines of a file with an open comment are those of the whole file; the comment bears its own. -/
example :
    let path : OsString := .ofString "a.c"
    let files := FileTree.withFile {} path "\uFEFFx\n/*\n".toUTF8
    let scan := (ofFile files .standard true path).1
    scan.tokens.map Token.text = ["x", "\n"] ∧ scan.lines = 3 ∧
      scan.failure = some (.scanning ⟨.blockComment, 2⟩) := by
  decide +kernel

end FileScan

end TokenScan
