import TokenScan.Proofs.Session.Agreement
/-!
# Registrations that matter

A registration in the middle of a scan changes the table that the rest of the scan asks. It makes no
difference if the rest of the text never leads to the new pattern (`Call.IsIdle`): the session
before and the session after are alike then, and stay alike whatever they are asked
(`Alike.performAll`). Answers agree up to one thing: a later registration tells whether its pattern
is new, and that may have changed (`Answer.onText`).

The other digraphs do make a difference. A digraph that may be asked about is a token of the text
that consists of it once it is registered (`mem_scan_of_digraph`), and no scan gives a digraph that
is not registered (`mem_digraphs_of_mem_scan`).
-/

namespace TokenScan

open Text

/-- Whether a call registers a pattern that a scan of some text never asks about. -/
def Call.IsIdle (cs : List Char) : Call → Prop
  | .registerDigraph pattern => SymbolTable.IdleDigraph pattern cs
  | .registerSingle pattern => SymbolTable.IdleSingle pattern cs
  | .openText _ | .openReads _ | .openFile _ _ | .bind _ => False
  | .next | .nextRaw | .item | .tokens | .close => False

/-- What an answer says about the text. Whether a pattern is new does not count. -/
def Answer.onText : Answer → Answer
  | .added _ => .done
  | .done => .done
  | .notOpened error => .notOpened error
  | .token result => .token result
  | .tokens result => .tokens result

theorem Answer.onText_moved (d : UInt32) (answer : Answer) :
    (answer.moved d).onText = answer.onText.moved d := by
  cases answer <;> rfl

/-! ### Moving by no lines -/

@[simp] theorem Token.moved_zero (token : Token) : token.moved 0 = token := by
  rw [moved, UInt32.add_zero]

@[simp] theorem Unterminated.moved_zero (e : Unterminated) : e.moved 0 = e := by
  rw [moved, UInt32.add_zero]

@[simp] theorem Answer.moved_zero (answer : Answer) : answer.moved 0 = answer := by
  have htoken : Token.moved 0 = id := funext Token.moved_zero
  cases answer with
  | token result => cases result <;> simp [moved, movedResult, htoken]
  | tokens result => cases result <;> simp [moved, movedResult, htoken]
  | done => rfl
  | notOpened error => rfl
  | added new => rfl

namespace Session

variable {d : UInt32} {s t : Session}

/-! ### Sessions that are alike -/

/-- **Sessions that are alike say the same about the text**, whatever they are asked, and are alike
after it. -/
theorem Alike.perform (h : Alike d s t) {call : Call} (hcall : call.GoesOn) :
    (t.perform call).answer.onText = (s.perform call).answer.onText.moved d ∧
      Alike d (s.perform call).session (t.perform call).session := by
  by_cases hasks : call.AsksForTokens
  · obtain ⟨hanswer, hafter⟩ := h.ask hasks
    exact ⟨by rw [hanswer, Answer.onText_moved], hafter⟩
  cases call with
  | openText _ | openReads _ | openFile _ _ | bind _ => exact hcall.elim
  | next | nextRaw | item | tokens => exact absurd trivial hasks
  | registerDigraph pattern => exact ⟨rfl, h.refresh (h.symbols.registerDigraph pattern)⟩
  | registerSingle pattern => exact ⟨rfl, h.refresh (h.symbols.registerSingle pattern)⟩
  | close => exact ⟨rfl, h.close⟩

theorem Alike.performAll (h : Alike d s t) {calls : List Call}
    (hcalls : ∀ call ∈ calls, call.GoesOn) :
    (t.performAll calls).1.map Answer.onText =
        (s.performAll calls).1.map (fun answer ↦ answer.onText.moved d) ∧
      Alike d (s.performAll calls).2 (t.performAll calls).2 := by
  induction calls generalizing s t with
  | nil => exact ⟨rfl, h⟩
  | cons call calls ih =>
    obtain ⟨hcall, hrest⟩ := List.forall_mem_cons.1 hcalls
    obtain ⟨hanswer, hafter⟩ := h.perform hcall
    obtain ⟨hanswers, hlast⟩ := ih hafter hrest
    exact ⟨List.cons_eq_cons.2 ⟨hanswer, hanswers⟩, hlast⟩

/-- Sessions that are alike are done together. -/
theorem Alike.isDone_eq (h : Alike d s t) : t.isDone = s.isDone := by
  rw [Bool.eq_iff_iff, h.right.isDone_iff, h.left.isDone_iff, h.remaining]

/-- A session is alike to itself after a change of the symbols that makes no difference. -/
theorem alike_refresh (hs : s.IsCurrent) {symbols : SymbolTable}
    (hsymbols : s.symbols.SameOn symbols s.remaining) :
    Alike 0 s ({ s with symbols } : Session).refresh := by
  refine ⟨?_, remaining_refresh s symbols, ?_, hs, hs.refresh symbols⟩
  · rw [symbols_refresh]
    exact hsymbols
  · rw [line_refresh, UInt32.add_zero]

/-- **A session is alike to itself after an idle registration.** -/
theorem alike_perform_of_isIdle (hs : s.IsCurrent) {call : Call} (h : call.IsIdle s.remaining) :
    Alike 0 s (s.perform call).session := by
  cases call with
  | registerDigraph pattern => exact alike_refresh hs (.of_idleDigraph h _)
  | registerSingle pattern => exact alike_refresh hs (.of_idleSingle h _)
  | openText _ | openReads _ | openFile _ _ | bind _ => exact h.elim
  | next | nextRaw | item | tokens | close => exact h.elim

/-! ### Digraphs that a scan gives -/

/-- A digraph that a scan gives is registered. -/
theorem mem_digraphs_of_mem_scan (hs : s.IsCurrent) {raw : Bool} {token : Token}
    (hmem : token ∈ (s.scan raw).tokens) (hkind : token.kind = .digraph) :
    token.text ∈ s.symbols.digraphs := by
  obtain ⟨last, hrun, -⟩ := run_scan s raw
  rw [tokens_scan] at hmem
  obtain ⟨before, u, v, hbefore, hnext⟩ := hrun.exists_of_mem (List.mem_filter.1 hmem).1
  have hstep := step_nextRaw (hbefore.isCurrent hs)
  rw [hnext] at hstep
  cases hstep with
  | token hfirst htext _ _ _ _ _ =>
    obtain rfl : _ = TokenKind.digraph := hkind
    rw [← hbefore.symbols]
    exact htext.mem_digraphs hfirst.isMatch

/-- The token that comes next is given by the scan, if it is not white space. -/
theorem mem_scan_of_nextRaw {token : Token} (h : s.nextRaw = (.ok (some token), t))
    (hw : token.isWhitespace = false) (raw : Bool) : token ∈ (s.scan raw).tokens := by
  obtain ⟨last, hrun, hlast⟩ := run_scan s raw
  rw [tokens_scan, List.mem_filter]
  refine ⟨?_, by simp [isWanted, hw]⟩
  generalize (s.scan raw).extracted = tokens at hrun
  cases hrun with
  | nil =>
    have hending := congrArg Prod.fst (hlast.symm.trans h)
    exact absurd hending (Scan.ending_ne _ token)
  | cons hfirst _ =>
    obtain ⟨hresult, -⟩ := Prod.mk.inj (h.symm.trans hfirst)
    obtain rfl := Option.some.inj (Except.ok.inj hresult)
    exact List.mem_cons_self

/-- **A digraph that may be asked about is given once it is registered**: the text that consists of
it is one token then. -/
theorem mem_scan_of_digraph (hs : s.IsCurrent) {c d : Char} (hw : isWhitespace c = false)
    (ha : isAlphanumeric c = false) (h : String.ofList [c, d] ∈ s.symbols.digraphs)
    (hremaining : s.remaining = [c, d]) (raw : Bool) :
    (⟨.digraph, String.ofList [c, d], s.line⟩ : Token) ∈ (s.scan raw).tokens := by
  have hkind : s.symbols.FirstMatch .digraph s.remaining := by
    rw [hremaining]
    exact SymbolTable.firstMatch_digraph hw ha h
  have htext : s.symbols.IsLexeme .digraph s.remaining [c, d] := by
    rw [hremaining]
    exact ⟨List.prefix_refl _, rfl⟩
  obtain ⟨hresult, -, -⟩ := (step_nextRaw hs).eq_of_isLexeme hkind htext
  refine mem_scan_of_nextRaw (Prod.ext hresult rfl) ?_ raw
  rw [Token.isWhitespace, String.toList_ofList]
  exact hw

/-- **A new digraph that may be asked about makes a difference** to the text that consists of it. -/
theorem exists_scan_ne_of_digraph (symbols : SymbolTable) {p : String} (hlength : p.length = 2)
    (hclass : ∀ c ∈ p.toList.head?, isWhitespace c = false ∧ isAlphanumeric c = false)
    (hnew : p ∉ symbols.digraphs) :
    ∃ text : String, ∀ raw,
      (((withSymbols symbols).bind (.ofText text)).scan raw).tokens ≠
        (((withSymbols (symbols.registerDigraph p).2).bind (.ofText text)).scan raw).tokens := by
  obtain ⟨c, d, hp⟩ : ∃ c d, p.toList = [c, d] := by
    rw [← String.length_toList] at hlength
    exact List.length_eq_two.1 hlength
  rw [hp] at hclass
  obtain ⟨hw, ha⟩ := hclass c rfl
  obtain rfl : p = String.ofList [c, d] := by rw [← hp, String.ofList_toList]
  -- a mark at the start of a text is left out, and the digraph may start with one
  let text := String.ofList (Source.byteOrderMark :: [c, d])
  have htext (symbols : SymbolTable) :
      ((withSymbols symbols).bind (.ofText text)).remaining = [c, d] := by
    rw [remaining_bind, Source.remaining_ofText, String.toList_ofList, Source.withoutMark,
      if_pos rfl]
  have hregistered :
      String.ofList [c, d] ∈ (symbols.registerDigraph (String.ofList [c, d])).2.digraphs :=
    PatternSet.mem_insert.2 (.inr rfl)
  refine ⟨text, fun raw heq ↦ hnew ?_⟩
  have hmem := mem_scan_of_digraph (isCurrent_bind _ _) hw ha hregistered (htext _) raw
  replace hmem := heq ▸ hmem
  exact mem_digraphs_of_mem_scan (isCurrent_bind _ _) hmem rfl

/-- **Exactly which registrations matter.** A digraph that is not two characters long, that starts
with white space, a letter or a digit, or whose characters do not stand side by side in what is left
of the text makes no difference to the rest of the scan; nor does a single symbol that is not one
character long, or whose character does not occur in what is left. Whatever is asked of the session
later, the answers, what is left of the text and the line are the same with the registration and
without it, up to whether a pattern that is registered later is new.

Any other digraph that is not in the table makes a difference: there is a text of which it is a
token as soon as it is registered, and not before. -/
theorem performAll_of_isIdle_and_exists_scan_ne :
    (∀ (s : Session) (call : Call) (calls : List Call), s.IsReachable → call.IsIdle s.remaining →
      (∀ call ∈ calls, call.GoesOn) →
        let t := (s.perform call).session
        (t.performAll calls).1.map Answer.onText = (s.performAll calls).1.map Answer.onText ∧
          (t.performAll calls).2.remaining = (s.performAll calls).2.remaining ∧
          (t.performAll calls).2.line = (s.performAll calls).2.line ∧
          (t.performAll calls).2.isDone = (s.performAll calls).2.isDone ∧
          ∀ raw, (t.scan raw).tokens = (s.scan raw).tokens ∧
            (t.scan raw).error = (s.scan raw).error) ∧
    ∀ (symbols : SymbolTable) (p : String), p.length = 2 →
      (∀ c ∈ p.toList.head?, isWhitespace c = false ∧ isAlphanumeric c = false) →
      p ∉ symbols.digraphs →
        ∃ text : String, ∀ raw,
          (((withSymbols symbols).bind (.ofText text)).scan raw).tokens ≠
            (((withSymbols (symbols.registerDigraph p).2).bind (.ofText text)).scan
              raw).tokens := by
  refine ⟨fun s call calls hs hidle hcalls ↦ ?_, fun symbols p ↦ exists_scan_ne_of_digraph symbols⟩
  intro t
  have h : Alike 0 s t := alike_perform_of_isIdle hs.isCurrent hidle
  obtain ⟨hanswers, hlast⟩ := h.performAll hcalls
  have hline := hlast.line
  rw [UInt32.add_zero] at hline
  refine ⟨by simpa using hanswers, hlast.remaining, hline, hlast.isDone_eq, fun raw ↦ ?_⟩
  obtain ⟨htokens, herror, -⟩ := h.scan raw
  have htoken : Token.moved 0 = id := funext Token.moved_zero
  have hopen : Unterminated.moved 0 = id := funext Unterminated.moved_zero
  rw [htoken, List.map_id] at htokens
  rw [hopen, Option.map_id] at herror
  exact ⟨htokens, herror⟩

/-- In front of a digraph, a pair is registered that stands in the text and starts with a letter. An
arrow is two characters of punctuation that the standard table does not have. -/
theorem performAll_of_isIdle_and_exists_scan_ne_of_letter :
    let s := ((withSymbols .standard).performAll [.openText "b+=c \"d", .nextRaw]).2
    let t := (s.perform (.registerDigraph "c ")).session
    let calls : List Call := [.nextRaw, .registerDigraph "c ", .item, .registerSingle "d", .tokens]
    s.IsReachable ∧ Call.IsIdle s.remaining (.registerDigraph "c ") ∧
      (∀ call ∈ calls, call.GoesOn) ∧
      (t.performAll calls).1.map Answer.onText = (s.performAll calls).1.map Answer.onText ∧
      (t.performAll calls).2.line = (s.performAll calls).2.line ∧
      "=>".length = 2 ∧
      (∀ c ∈ "=>".toList.head?, isWhitespace c = false ∧ isAlphanumeric c = false) ∧
      "=>" ∉ SymbolTable.standard.digraphs ∧
      ∃ text : String, ∀ raw,
        (((withSymbols .standard).bind (.ofText text)).scan raw).tokens ≠
          (((withSymbols (SymbolTable.standard.registerDigraph "=>").2).bind (.ofText text)).scan
            raw).tokens := by
  intro s t calls
  obtain ⟨hsame, hdiffers⟩ := performAll_of_isIdle_and_exists_scan_ne
  have hs : s.IsReachable := ⟨.standard, _, rfl⟩
  have hidle : Call.IsIdle s.remaining (.registerDigraph "c ") := .inr (.inl ⟨'c', rfl, .inr rfl⟩)
  have hcalls : ∀ call ∈ calls, call.GoesOn := by simp [calls, Call.GoesOn]
  obtain ⟨hanswers, -, hline, -⟩ := hsame s _ calls hs hidle hcalls
  have hlength : "=>".length = 2 := rfl
  have hclass : ∀ c ∈ "=>".toList.head?, isWhitespace c = false ∧ isAlphanumeric c = false := by
    rintro c ⟨⟩
    decide +kernel
  have hnew : "=>" ∉ SymbolTable.standard.digraphs := by decide +kernel
  exact ⟨hs, hidle, hcalls, hanswers, hline, hlength, hclass, hnew,
    hdiffers _ _ hlength hclass hnew⟩

end Session

end TokenScan
