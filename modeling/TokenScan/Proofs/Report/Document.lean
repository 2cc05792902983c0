import TokenScan.Proofs.Command.Tokens
import TokenScan.Proofs.Json.Reader
/-!
# The JSON output can be read back

The JSON output of scans is one document for each scan that has more to show than a failure, one
after the other. `FileScan.summaries_outputOf` reads it back from its bytes: first as documents, and
then, document by document, as what was to be said of the file (`FileSummary`).

That the documents come back is a fact about layouts (`Json.documents?_flatMap`). What they hold is
looked up by key, whatever the order of the keys (`Token.ofRecord?_record`,
`FileSummary.ofRecord?_record`). The kind of a token comes back because no two kinds share a name
(`TokenKind.ofName?_name`).
-/

namespace TokenScan

/-! ### Tokens -/

namespace Token

/-- The token that a document tells of. -/
def ofRecord? (j : Json) : Option Token := do
  let name ← (← j.get? "kind").string?
  let kind ← TokenKind.ofName? name
  let text ← (← j.get? "text").string?
  let line ← (← j.get? "line").nat?
  if line < UInt32.size then some ⟨kind, text, UInt32.ofNat line⟩ else none

/-- **The record of a token tells the token.** -/
theorem ofRecord?_record (t : Token) : ofRecord? t.record = some t := by
  have hkind : t.record.get? "kind" = some (.string t.kind.name) := rfl
  have htext : t.record.get? "text" = some (.string t.text) := rfl
  have hline : t.record.get? "line" = some (.number t.line.toNat) := rfl
  simp only [ofRecord?, hkind, htext, hline, Json.string?, Json.nat?, Option.bind_eq_bind,
    Option.bind_some, TokenKind.ofName?_name, if_pos t.line.toNat_lt_size, UInt32.ofNat_toNat]

theorem fitsWithin_record (t : Token) (depth : Nat) : t.record.FitsWithin (depth + 1) := by
  simp [record, Json.FitsWithin]

end Token

/-! ### Files -/

/-- What a document tells of a file. -/
structure FileSummary where
  /-- The path of the file. -/
  path : OsString
  /-- The number of its lines. -/
  lines : UInt32
  /-- The tokens in it. -/
  tokens : List Token
  deriving DecidableEq

namespace FileSummary

/-- What a document tells of a file, if it does. -/
def ofRecord? (j : Json) : Option FileSummary := do
  let path ← (← j.get? "file").string?
  let lines ← (← j.get? "lines").nat?
  let tokens ← (← j.get? "tokens").list? Token.ofRecord?
  if lines < UInt32.size then some ⟨.ofString path, UInt32.ofNat lines, tokens⟩ else none

end FileSummary

namespace FileScan

/-- What there is to be told of a scan, apart from a failure. -/
def summary (s : FileScan) : FileSummary := ⟨s.path, s.lines, s.tokens⟩

end FileScan

/-- **The record of a scan tells what there is to be told**, if the path is a text. -/
theorem FileSummary.ofRecord?_record (s : FileScan) (hpath : s.path.IsText) :
    ofRecord? s.record = some s.summary := by
  obtain ⟨text, htext⟩ := hpath
  have hpath : s.record.get? "file" = some (.string text) := by
    rw [← OsString.display_ofString text, ← htext]
    rfl
  have hlines : s.record.get? "lines" = some (.number s.lines.toNat) := rfl
  have htokens : s.record.get? "tokens" = some (.array (s.tokens.map Token.record)) := rfl
  have hall : (s.tokens.map Token.record).mapM Token.ofRecord? = some s.tokens := by
    rw [Json.mapM_map_eq_some fun t _ ↦ Token.ofRecord?_record t, List.map_id']
  simp only [ofRecord?, hpath, hlines, htokens, hall, Json.string?, Json.nat?, Json.list?,
    Option.bind_eq_bind, Option.bind_some, if_pos s.lines.toNat_lt_size, UInt32.ofNat_toNat]
  rw [FileScan.summary, htext]

namespace FileScan

theorem fitsWithin_record (s : FileScan) (depth : Nat) : s.record.FitsWithin (depth + 3) := by
  simp [record, Json.FitsWithin, Token.fitsWithin_record]

/-- The JSON output of scans is the documents of those that have one. -/
theorem toList_outputOf_json (scans : List FileScan) :
    (Emission.outputOf (scans.flatMap (TokensRequest.emissions .json))).toList =
      ((scans.filter fun s ↦ !s.isBarren).map record).flatMap fun j ↦ j.pretty ++ ['\n'] := by
  have hturns : Emission.outputOf (scans.flatMap (TokensRequest.emissions .json)) =
      String.join (scans.map (render .json)) := by
    rw [Emission.outputOf, Emission.join_map_flatMap]
    exact congrArg String.join
      (List.map_congr_left fun s _ ↦ TokensRequest.outputOf_emissions .json s)
  have hrender (s : FileScan) : (s.render .json).toList =
      if s.isBarren then [] else s.record.pretty ++ ['\n'] := String.toList_ofList
  rw [hturns, String.toList_join, List.flatMap_map, List.flatMap_map]
  clear hturns
  induction scans with
  | nil => rfl
  | cons s scans ih =>
    rw [List.flatMap_cons, ih, hrender]
    cases hbarren : s.isBarren with
    | true => rw [List.filter_cons_of_neg (by simp [hbarren])]; rfl
    | false => rw [List.filter_cons_of_pos (by simp [hbarren])]; rfl

/-- **The JSON output can be read back.** Of any scans, the bytes of the output are documents: one,
in the order of the scans, for each that did not fail before its first token. Where the paths are
texts, each of them tells the path, the number of lines and the tokens, with their kinds, texts and
lines, whatever the texts hold. The same goes for a token alone, on one line. Kinds are told by
their names, which differ. -/
theorem summaries_outputOf (scans : List FileScan) :
    let written := (Emission.outputOf (scans.flatMap (TokensRequest.emissions .json))).toUTF8
    let told := scans.filter fun s ↦ ¬ (s.failure.isSome = true ∧ s.tokens = [])
    Json.ofBytes? written = some (told.map record) ∧
      ((∀ s ∈ told, s.path.IsText) →
        (Json.ofBytes? written).bind (·.mapM FileSummary.ofRecord?) = some (told.map summary)) ∧
      (∀ token : Token,
        Json.ofBytes? (String.ofList token.record.compact).toUTF8 = some [token.record] ∧
          Token.ofRecord? token.record = some token) ∧
      Function.Injective TokenKind.name := by
  intro written told
  have htold : told = scans.filter fun s ↦ !s.isBarren := by
    refine List.filter_congr fun s _ ↦ ?_
    rw [Bool.eq_iff_iff]
    simp [isBarren]
  have hread : Json.ofBytes? written = some (told.map record) := by
    rw [Json.ofBytes?_toUTF8, toList_outputOf_json, ← htold]
    refine Json.documents?_flatMap _ ?_ Json.isGap_nil
    rintro j hj
    obtain ⟨s, -, rfl⟩ := List.mem_map.1 hj
    exact s.fitsWithin_record _
  refine ⟨hread, fun hpaths ↦ ?_, fun token ↦ ⟨?_, token.ofRecord?_record⟩, fun k k' hname ↦ ?_⟩
  · rw [hread, Option.bind_some]
    exact Json.mapM_map_eq_some fun s hs ↦ FileSummary.ofRecord?_record s (hpaths s hs)
  · rw [Json.ofBytes?_toUTF8, String.toList_ofList]
    exact Json.documents?_compact (token.fitsWithin_record _)
  · exact Option.some.inj
      ((TokenKind.ofName?_name k).symm.trans (hname ▸ TokenKind.ofName?_name k'))

/-- Two files are read back, one of them with a quote in its path and a token that needs escapes;
the file between them, which failed at once, is not. -/
theorem summaries_outputOf_of_two :
    let quote : FileScan := {
      path := .ofString "a\".c", lines := 2, tokens := [⟨.quotedString, "\"\\\x01é\n\"", 1⟩] }
    let missing : FileScan := { path := .ofString "b.c", failure := some (.opening .encoding) }
    let empty : FileScan := { path := .ofString "c.c", lines := 1 }
    let written := Emission.outputOf
      ([quote, missing, empty].flatMap (TokensRequest.emissions .json))
    (Json.ofBytes? written.toUTF8).bind (·.mapM FileSummary.ofRecord?) =
      some [quote.summary, empty.summary] := by
  intro quote missing empty written
  have htexts : ∀ s ∈ [quote, missing, empty], s.path.IsText := by
    simp [quote, missing, empty, OsString.isText_ofString]
  exact (summaries_outputOf [quote, missing, empty]).2.1
    fun s hs ↦ htexts s (List.mem_of_mem_filter hs)

end FileScan

end TokenScan
