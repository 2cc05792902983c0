import TokenScan.Proofs.Session.Line
import TokenScan.Proofs.Symbols
/-!
# A session is its text, its symbols and its line

Two sessions that have the same text left and tables that say the same about it go on in the same
way, and the lines that they report stand apart by the difference of their lines, which never
changes. How the text is supplied does not matter: neither the feed, nor how much of it is queued,
nor whether its end has been seen.

* `Session.Alike` is the relation for taking tokens. A step keeps it (`Alike.nextRaw`), as the kind
  and the text of a token are determined on either side; hence runs do (`Alike.run`) and, as loops
  are told by their runs, so do the loops (`Alike.next`, `Alike.scan`), and with them every call
  that asks for tokens (`Alike.ask`).
* `Session.Agrees` asks for tables with the same patterns, so that registrations keep it as well
  (`Agrees.perform`, `Agrees.performAll`).
* A session at the boundary of two tokens is alike to one that starts there afresh, so any boundary
  is a place to start again (`scan_restart`).
-/

namespace TokenScan

/-! ### Moving to another line -/

/-- A token that stands a number of lines further on. -/
def Token.moved (d : UInt32) (token : Token) : Token := { token with line := token.line + d }

/-- An open construct that stands a number of lines further on. -/
def Unterminated.moved (d : UInt32) (e : Unterminated) : Unterminated :=
  { e with line := e.line + d }

/-- A result that was found a number of lines further on. -/
def movedResult {α : Type} (d : UInt32) (move : α → α) :
    Except Unterminated α → Except Unterminated α
  | .ok a => .ok (move a)
  | .error e => .error (e.moved d)

/-- An answer that was found a number of lines further on. -/
def Answer.moved (d : UInt32) : Answer → Answer
  | .token result => .token (movedResult d (Option.map (Token.moved d)) result)
  | .tokens result => .tokens (movedResult d (List.map (Token.moved d)) result)
  | .done => .done
  | .notOpened error => .notOpened error
  | .added new => .added new

/-- Reading on moves two lines alike. -/
theorem lineAfter_add (line d : UInt32) (cs : List Char) :
    lineAfter (line + d) cs = lineAfter line cs + d := by
  rw [lineAfter, lineAfter, UInt32.add_assoc, UInt32.add_comm d, ← UInt32.add_assoc]

namespace Session

variable {d : UInt32} {s s' t : Session} {tokens : List Token}

/-! ### Taking tokens -/

/-- Whether two sessions have the same text left and tables that say the same about it, the second
standing a number of lines further on. -/
structure Alike (d : UInt32) (s t : Session) : Prop where
  /-- The tables say the same about the text. -/
  symbols : s.symbols.SameOn t.symbols s.remaining
  /-- The texts are the same. -/
  remaining : t.remaining = s.remaining
  /-- The lines stand apart by this number. -/
  line : t.line = s.line + d
  /-- The pending kind of the first is right. -/
  left : s.IsCurrent
  /-- The pending kind of the second is right. -/
  right : t.IsCurrent

/-- **Sessions that are alike take the same step**, and are alike after it. -/
theorem Alike.nextRaw (h : Alike d s t) :
    t.nextRaw.1 = movedResult d (Option.map (Token.moved d)) s.nextRaw.1 ∧
      Alike d s.nextRaw.2 t.nextRaw.2 := by
  have hs := step_nextRaw h.left
  have ht := step_nextRaw h.right
  have hsymbols : s.nextRaw.2.symbols.SameOn t.nextRaw.2.symbols s.nextRaw.2.remaining := by
    rw [hs.symbols, ht.symbols]
    exact h.symbols.suffix hs.suffix
  -- it is left to compare what the steps report, what they leave and where
  suffices hsame : t.nextRaw.1 = movedResult d (Option.map (Token.moved d)) s.nextRaw.1 ∧
      t.nextRaw.2.remaining = s.nextRaw.2.remaining ∧
      t.nextRaw.2.line = s.nextRaw.2.line + d by
    obtain ⟨hresult, hremaining, hline⟩ := hsame
    exact ⟨hresult, hsymbols, hremaining, hline, h.left.nextRaw, h.right.nextRaw⟩
  clear hsymbols
  generalize s.nextRaw = outcome at hs ⊢
  cases hs with
  | finished hnil =>
    rw [ht.eq_of_remaining_eq_nil (h.remaining.trans hnil)]
    exact ⟨rfl, h.remaining, h.line⟩
  | token hkind htext _ hremaining hline _ _ =>
    rw [h.symbols.firstMatch_iff, ← h.remaining] at hkind
    replace htext := h.symbols.isLexeme htext
    rw [← h.remaining] at htext
    obtain ⟨hresult, hremaining', hline'⟩ := ht.eq_of_isLexeme hkind htext
    rw [h.remaining, hremaining] at hremaining'
    refine ⟨?_, (List.append_cancel_left hremaining').symm, ?_⟩
    · rw [hresult, h.line]
      rfl
    · rw [hline', hline, h.line, lineAfter_add]
  | unterminated hkind hopen hremaining hline _ _ =>
    rw [h.symbols.firstMatch_iff, ← h.remaining] at hkind
    rw [← h.remaining] at hopen
    obtain ⟨hresult, hremaining', hline'⟩ := ht.eq_of_isOpen hkind hopen
    refine ⟨?_, hremaining'.trans hremaining.symm, ?_⟩
    · rw [hresult, h.line]
      rfl
    · rw [hline', hline, h.line, h.remaining, lineAfter_add]

/-- Sessions that are alike have the same runs. -/
theorem Alike.run (h : Alike d s t) (hrun : Run s tokens s') :
    ∃ t', Run t (tokens.map (Token.moved d)) t' ∧ Alike d s' t' := by
  induction hrun generalizing t with
  | nil => exact ⟨t, .nil, h⟩
  | cons hfirst _ ih =>
    obtain ⟨hresult, hnext⟩ := h.nextRaw
    rw [hfirst] at hresult hnext
    obtain ⟨t', hrun', hlast⟩ := ih hnext
    exact ⟨t', .cons (Prod.ext hresult rfl) hrun', hlast⟩

/-- Sessions that are alike have the same runs with one more step. -/
theorem Alike.run_last (h : Alike d s t) (hrun : Run s tokens s') {u : Session}
    {last : Except Unterminated (Option Token)} (hlast : s'.nextRaw = (last, u)) :
    ∃ t' v, Run t (tokens.map (Token.moved d)) t' ∧
      t'.nextRaw = (movedResult d (Option.map (Token.moved d)) last, v) ∧ Alike d u v := by
  obtain ⟨t', hrun', hmid⟩ := h.run hrun
  obtain ⟨hresult, hafter⟩ := hmid.nextRaw
  rw [hlast] at hresult hafter
  exact ⟨t', t'.nextRaw.2, hrun', Prod.ext hresult rfl, hafter⟩

/-- A token of a result that was moved is a token that was moved. -/
theorem exists_of_movedResult {result : Except Unterminated (Option Token)} {token : Token}
    (h : movedResult d (Option.map (Token.moved d)) result = .ok (some token)) :
    ∃ token', result = .ok (some token') ∧ token = token'.moved d := by
  rcases result with e | - | token'
  · cases h
  · cases h
  · exact ⟨token', rfl, (Option.some.inj (Except.ok.inj h)).symm⟩

/-- Sessions that are alike answer alike when they are asked for a token. -/
theorem Alike.next (h : Alike d s t) :
    t.next.result = movedResult d (Option.map (Token.moved d)) s.next.result ∧
      Alike d s.next.session t.next.session := by
  obtain ⟨s', hrun, hlast⟩ := run_next s
  obtain ⟨t', v, hrun', hlast', hafter⟩ := h.run_last hrun hlast
  obtain ⟨hpassed, hresult⟩ := isWhitespace_of_next s
  have hpassed' : ∀ token ∈ s.next.passed.map (Token.moved d), token.isWhitespace = true := by
    intro token hmem
    obtain ⟨token', hmem', rfl⟩ := List.mem_map.1 hmem
    exact hpassed token' hmem'
  have hresult' : ∀ token, movedResult d (Option.map (Token.moved d)) s.next.result =
      .ok (some token) → token.isWhitespace = false := by
    intro token htoken
    obtain ⟨token', htoken', rfl⟩ := exists_of_movedResult htoken
    exact hresult token' htoken'
  rw [next_eq_of_run hrun' hpassed' hlast' hresult']
  exact ⟨rfl, hafter⟩

/-- A result that was moved reports an open construct that was moved. -/
theorem lastOpen_movedResult (result : Except Unterminated (Option Token)) :
    lastOpen (movedResult d (Option.map (Token.moved d)) result) =
      (lastOpen result).map (Unterminated.moved d) := by
  rcases result with e | token <;> rfl

/-- Sessions that are alike have the same scans. -/
theorem Alike.scan (h : Alike d s t) (raw : Bool) :
    (t.scan raw).tokens = (s.scan raw).tokens.map (Token.moved d) ∧
      (t.scan raw).error = (s.scan raw).error.map (Unterminated.moved d) ∧
      Alike d (s.scan raw).session (t.scan raw).session := by
  obtain ⟨s', hrun, hlast⟩ := run_scan s raw
  obtain ⟨t', v, hrun', hlast', hafter⟩ := h.run_last hrun hlast
  have hend : ∀ token, movedResult d (Option.map (Token.moved d)) (s.scan raw).ending ≠
      .ok (some token) := by
    intro token htoken
    obtain ⟨token', htoken', -⟩ := exists_of_movedResult htoken
    exact Scan.ending_ne _ token' htoken'
  obtain ⟨hextracted, hending, hsession⟩ := scan_of_run hrun' hlast' hend raw
  refine ⟨?_, ?_, ?_⟩
  · have hwanted : isWanted raw ∘ Token.moved d = isWanted raw := rfl
    rw [tokens_scan, tokens_scan, hextracted, List.filter_map, hwanted]
  · rw [← Scan.lastOpen_ending, hending, lastOpen_movedResult, Scan.lastOpen_ending]
  · rw [hsession]
    exact hafter

/-! ### Calls -/

/-- **Sessions that are alike answer alike when they are asked for tokens**, and are alike after
it. -/
theorem Alike.ask (h : Alike d s t) {call : Call} (hcall : call.AsksForTokens) :
    (t.perform call).answer = (s.perform call).answer.moved d ∧
      Alike d (s.perform call).session (t.perform call).session := by
  cases call with
  | next => exact ⟨congrArg Answer.token h.next.1, h.next.2⟩
  | nextRaw => exact ⟨congrArg Answer.token h.nextRaw.1, h.nextRaw.2⟩
  | item =>
    rw [perform_item, perform_item]
    exact ⟨congrArg Answer.token h.next.1, h.next.2⟩
  | tokens =>
    obtain ⟨htokens, herror, hafter⟩ := h.scan false
    refine ⟨congrArg Answer.tokens ?_, hafter⟩
    rw [Scan.result, Scan.result, htokens, herror]
    rcases (s.scan false).error with - | e <;> rfl
  | openText _ | openReads _ | openFile _ _ | bind _ => exact hcall.elim
  | registerDigraph _ | registerSingle _ | close => exact hcall.elim

/-- Sessions that are alike still are when their tables change to ones that say the same. -/
theorem Alike.refresh (h : Alike d s t) {symbols symbols' : SymbolTable}
    (hsymbols : symbols.SameOn symbols' s.remaining) :
    Alike d ({ s with symbols } : Session).refresh
      ({ t with symbols := symbols' } : Session).refresh := by
  refine ⟨?_, ?_, ?_, h.left.refresh symbols, h.right.refresh symbols'⟩
  · rw [symbols_refresh, symbols_refresh, remaining_refresh]
    exact hsymbols
  · rw [remaining_refresh, remaining_refresh]
    exact h.remaining
  · rw [line_refresh, line_refresh]
    exact h.line

/-- Sessions that are alike still are when they let go of their sources. -/
theorem Alike.close (h : Alike d s t) : Alike d s.close t.close := by
  refine ⟨?_, ?_, ?_, isCurrent_close s, isCurrent_close t⟩
  · rw [remaining_close]
    exact h.symbols.suffix List.nil_suffix
  · rw [remaining_close, remaining_close]
  · rw [line_close, line_close]
    exact h.line

/-! ### Tables with the same patterns -/

/-- Whether two sessions have the same text left and tables with the same patterns, the second
standing a number of lines further on. -/
structure Agrees (d : UInt32) (s t : Session) : Prop extends Alike d s t where
  /-- The tables have the same patterns. -/
  equiv : s.symbols.equiv t.symbols = true

/-- Tables with the same patterns say the same about every text, so there is no need to ask. -/
theorem Agrees.of_equiv (equiv : s.symbols.equiv t.symbols = true)
    (remaining : t.remaining = s.remaining) (line : t.line = s.line + d) (left : s.IsCurrent)
    (right : t.IsCurrent) : Agrees d s t where
  symbols := .of_equiv equiv s.remaining
  remaining := remaining
  line := line
  left := left
  right := right
  equiv := equiv

/-- Sessions that agree answer alike when they are asked for tokens, and agree after it. -/
theorem Agrees.ask (h : Agrees d s t) {call : Call} (hcall : call.AsksForTokens) :
    (t.perform call).answer = (s.perform call).answer.moved d ∧
      Agrees d (s.perform call).session (t.perform call).session := by
  obtain ⟨hanswer, hafter⟩ := h.toAlike.ask hcall
  refine ⟨hanswer, hafter, ?_⟩
  rw [symbols_perform h.left hcall, symbols_perform h.right hcall]
  exact h.equiv

/-- Sessions that agree still do after registrations that leave the same patterns. -/
theorem Agrees.refresh (h : Agrees d s t) {symbols symbols' : SymbolTable}
    (hsymbols : symbols.equiv symbols' = true) :
    Agrees d ({ s with symbols } : Session).refresh
      ({ t with symbols := symbols' } : Session).refresh := by
  refine ⟨h.toAlike.refresh (.of_equiv hsymbols _), ?_⟩
  rw [symbols_refresh, symbols_refresh]
  exact hsymbols

/-- **Sessions that agree answer a call alike**, and agree after it. -/
theorem Agrees.perform (h : Agrees d s t) {call : Call} (hcall : call.GoesOn) :
    (t.perform call).answer = (s.perform call).answer.moved d ∧
      Agrees d (s.perform call).session (t.perform call).session := by
  cases call with
  | openText _ | openReads _ | openFile _ _ | bind _ => exact hcall.elim
  | next | nextRaw | item | tokens => exact h.ask trivial
  | registerDigraph pattern =>
    have hnew := (SymbolTable.contains_of_equiv h.equiv pattern).1
    refine ⟨?_, h.refresh (SymbolTable.equiv_registerDigraph h.equiv pattern)⟩
    show Answer.added (!t.symbols.digraphs.contains pattern) =
      .added (!s.symbols.digraphs.contains pattern)
    rw [hnew]
  | registerSingle pattern =>
    have hnew := (SymbolTable.contains_of_equiv h.equiv pattern).2
    refine ⟨?_, h.refresh (SymbolTable.equiv_registerSingle h.equiv pattern)⟩
    show Answer.added (!t.symbols.singles.contains pattern) =
      .added (!s.symbols.singles.contains pattern)
    rw [hnew]
  | close => exact ⟨rfl, h.toAlike.close, h.equiv⟩

/-- **Sessions that agree answer any calls alike**, and agree after them. -/
theorem Agrees.performAll (h : Agrees d s t) {calls : List Call}
    (hcalls : ∀ call ∈ calls, call.GoesOn) :
    (t.performAll calls).1 = (s.performAll calls).1.map (Answer.moved d) ∧
      Agrees d (s.performAll calls).2 (t.performAll calls).2 := by
  induction calls generalizing s t with
  | nil => exact ⟨rfl, h⟩
  | cons call calls ih =>
    obtain ⟨hcall, hrest⟩ := List.forall_mem_cons.1 hcalls
    obtain ⟨hanswer, hafter⟩ := h.perform hcall
    obtain ⟨hanswers, hlast⟩ := ih hafter hrest
    exact ⟨List.cons_eq_cons.2 ⟨hanswer, hanswers⟩, hlast⟩

/-! ### Starting again at a boundary -/

/-- **The boundary of two tokens is a place to start again**: what a scan gives from there on is
what a session gives that has the same patterns and starts on the rest of the text afresh, up to the
line. -/
theorem scan_restart (hs : s.IsCurrent) (hsymbols : s.symbols.equiv t.symbols = true) (i : Nat)
    {feed : Feed}
    (hfeed : feed.content = s.remaining.drop (texts ((s.scan true).tokens.take i)).length) :
    let d := 1 - lineAfter s.line (texts ((s.scan true).tokens.take i))
    ((t.bind (.ofFeed feed)).scan true).tokens = ((s.scan true).tokens.drop i).map (Token.moved d) ∧
      ((t.bind (.ofFeed feed)).scan true).error =
        (s.scan true).error.map (Unterminated.moved d) := by
  intro d
  obtain ⟨last, hrun, hlast⟩ := run_scan s true
  rw [extracted_scan, ← List.take_append_drop i (s.scan true).tokens] at hrun
  obtain ⟨u, hbefore, hafter⟩ := hrun.split
  -- the session at the boundary scans what is left of the tokens
  obtain ⟨htokens, hending, -⟩ := scan_of_run hafter hlast (Scan.ending_ne _) true
  rw [extracted_scan] at htokens
  have herror : (u.scan true).error = (s.scan true).error := by
    rw [← Scan.lastOpen_ending, hending, Scan.lastOpen_ending]
  have halike : Agrees d u (t.bind (.ofFeed feed)) := by
    refine .of_equiv ?_ ?_ ?_ (hbefore.isCurrent hs) (isCurrent_bind _ _)
    · rw [hbefore.symbols]
      exact hsymbols
    · rw [remaining_bind, Source.remaining_ofFeed, hfeed, hbefore.remaining, List.drop_left]
    · have hfresh : (t.bind (.ofFeed feed)).line = 1 := Source.line_nextKind _ _
      rw [hfresh, hbefore.line hs, UInt32.add_comm, UInt32.sub_add_cancel]
  obtain ⟨htokens', herror', -⟩ := halike.toAlike.scan true
  rw [htokens', herror', htokens, herror]
  exact ⟨rfl, rfl⟩

/-! ### The whole session -/

/-- Lines that are reached stay as far apart as the first ones, as long as neither is too large. -/
theorem Reaches.toNat_add {line : UInt32} (h : s.Reaches line) (hline : t.line = s.line + d) :
    ∃ passed, passed <+: s.remaining ∧ line = lineAfter s.line passed ∧
      (s.line.toNat + passed.count '\n' < UInt32.size →
        t.line.toNat + passed.count '\n' < UInt32.size →
        (line + d).toNat + s.line.toNat = line.toNat + t.line.toNat) := by
  obtain ⟨passed, hpassed, rfl⟩ := h
  refine ⟨passed, hpassed, rfl, fun hleft hright ↦ ?_⟩
  rw [← lineAfter_add, ← hline, toNat_lineAfter hleft, toNat_lineAfter hright]
  omega

/-- **What a session does depends on its text and its symbols alone**, whatever has happened on it
before. Two sessions with the same text left and the same symbols answer the same calls alike, and
every line that the one reports is as far from that of the other as the lines were at first. Where a
token of the first ends, the second may start afresh. -/
theorem performAll_agrees (s t : Session) (calls : List Call) (hs : s.IsReachable)
    (ht : t.IsReachable) (hsymbols : s.symbols.equiv t.symbols = true)
    (hremaining : t.remaining = s.remaining) (hcalls : ∀ call ∈ calls, call.GoesOn) :
    let d := t.line - s.line
    let after := s.performAll calls
    let after' := t.performAll calls
    after'.1 = after.1.map (Answer.moved d) ∧
      after'.2.line = after.2.line + d ∧
      (∀ line ∈ after.2.line :: after.1.flatMap Answer.lines,
        ∃ passed, passed <+: s.remaining ∧ line = lineAfter s.line passed ∧
          (s.line.toNat + passed.count '\n' < UInt32.size →
            t.line.toNat + passed.count '\n' < UInt32.size →
            (line + d).toNat + s.line.toNat = line.toNat + t.line.toNat)) ∧
      ∀ (i : Nat) (feed : Feed),
        let whole := s.scan true
        let start := texts (whole.tokens.take i)
        let fresh := (t.bind (.ofFeed feed)).scan true
        feed.content = s.remaining.drop start.length →
          fresh.tokens = (whole.tokens.drop i).map (Token.moved (1 - lineAfter s.line start)) ∧
            fresh.error = whole.error.map (Unterminated.moved (1 - lineAfter s.line start)) := by
  intro d after after'
  have hline : t.line = s.line + d := by rw [UInt32.add_comm, UInt32.sub_add_cancel]
  have h : Agrees d s t := .of_equiv hsymbols hremaining hline hs.isCurrent ht.isCurrent
  obtain ⟨hanswers, hlast⟩ := h.performAll hcalls
  obtain ⟨hleads, hlines⟩ := leadsTo_performAll hs.isCurrent hcalls
  refine ⟨hanswers, hlast.line, fun line hmem ↦ ?_, fun i feed ↦ ?_⟩
  · have hreaches : s.Reaches line := by
      rcases List.mem_cons.1 hmem with rfl | hmem
      · exact hleads.reaches
      · obtain ⟨answer, hanswer, hmem⟩ := List.mem_flatMap.1 hmem
        exact hlines answer hanswer line hmem
    exact hreaches.toNat_add hline
  · exact scan_restart hs.isCurrent hsymbols i

/-- A stream that was queued to its end before it was bound, and a text that was read up to the
second line. The tables list the same symbols in another order, one of them twice. -/
theorem performAll_agrees_of_queue :
    let arrows := SymbolTable.empty.registerAll ["->", "=>"] ["<", "#"]
    let arrows' := SymbolTable.empty.registerAll ["=>", "->", "=>"] ["#", "<"]
    let queue : Source := ((Source.ofFeed (.ofList "-> b\n\"".toList)).peek 9).2
    let s := ((withSymbols arrows).performAll [.bind queue]).2
    let t := ((withSymbols arrows').performAll [.openText "a\n<-> b\n\"", .nextRaw, .next]).2
    let calls : List Call := [.nextRaw, .registerSingle "<", .item, .tokens, .nextRaw, .close]
    s.IsReachable ∧ t.IsReachable ∧ s.symbols.equiv t.symbols = true ∧
      t.remaining = s.remaining ∧ (∀ call ∈ calls, call.GoesOn) ∧ t.line - s.line = 1 ∧
      (t.performAll calls).1 = (s.performAll calls).1.map (Answer.moved 1) ∧
      (t.performAll calls).2.line = (s.performAll calls).2.line + 1 := by
  intro arrows arrows' queue s t calls
  have hs : s.IsReachable := ⟨arrows, _, rfl⟩
  have ht : t.IsReachable := ⟨arrows', _, rfl⟩
  have hsymbols : s.symbols.equiv t.symbols = true := by decide +kernel
  have hremaining : t.remaining = s.remaining := by decide +kernel
  have hcalls : ∀ call ∈ calls, call.GoesOn := by simp [calls, Call.GoesOn]
  have hd : t.line - s.line = 1 := by decide +kernel
  obtain ⟨hanswers, hlast, -⟩ := performAll_agrees s t calls hs ht hsymbols hremaining hcalls
  rw [hd] at hanswers hlast
  exact ⟨hs, ht, hsymbols, hremaining, hcalls, hd, hanswers, hlast⟩

end Session

end TokenScan
