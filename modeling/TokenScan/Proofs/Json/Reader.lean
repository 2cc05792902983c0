import TokenScan.Json.Reader
import TokenScan.Proofs.Text.Digits
/-!
# Documents come back from their layouts

A document that is written in one of its two layouts is read back, whatever its strings hold. The two
differ only in where blank space stands, so what they have in common is said once (`IsLayout`), and
the reader is followed through any such layout (`IsLayout.reads`). Both are layouts
(`isLayout_compact`, `isLayout_pretty`).

A string cannot end early: what is written for a character is read as this character and leaves the
rest of the string where it is (`text?_escape_append`). A number ends where no digit follows, which is
why the text behind a document is asked about. Nesting is bounded on both sides by the same recursion
(`FitsWithin`), along which the reader is followed: items of a list fit one level less.

Documents that are put one after the other, with a line feed behind each, come back one by one
(`documents?_flatMap`).
-/

namespace TokenScan.Json

open Text (hexValue? items? AreDigits EndsDigits)

variable {j : Json} {c : Char} {cs rest gap : List Char}

/-! ### Strings -/

theorem text?_quote (rest : List Char) : text? ('"' :: rest) = some ([], rest) := by
  rw [text?, if_pos rfl]

theorem text?_of_escape {d : Char} {after : List Char} (h : escape? rest = some (d, after))
    (hle : after.length ≤ rest.length) :
    text? ('\\' :: rest) = (text? after).map fun (ds, tail) ↦ (d :: ds, tail) := by
  rw [text?, if_neg (by decide), if_pos rfl, h]
  exact if_pos hle

theorem text?_of_plain (hquote : c ≠ '"') (hslash : c ≠ '\\') (hcontrol : ¬ c.toNat < 0x20) :
    text? (c :: rest) = (text? rest).map fun (ds, tail) ↦ (c :: ds, tail) := by
  rw [text?, if_neg hquote, if_neg hslash, if_neg hcontrol]

/-- The four digits by which a control is named are read as the control. -/
theorem numbered?_of_control (h : c.toNat < 0x20) (rest : List Char) :
    numbered? ('0' :: '0' :: hexDigit (c.toNat / 16) :: hexDigit c.toNat :: rest) =
      some (c, rest) := by
  have hzero : hexValue? '0' = some 0 := rfl
  have hunit : codeUnit? ('0' :: '0' :: hexDigit (c.toNat / 16) :: hexDigit c.toNat :: rest) =
      some (c.toNat, rest) := by
    rw [codeUnit?, hzero, hexDigit, hexDigit, Text.hexValue?_digitChar (Nat.mod_lt _ (by decide)),
      Text.hexValue?_digitChar (Nat.mod_lt _ (by decide))]
    simp only [Option.bind_eq_bind, Option.bind_some, Option.pure_def, Option.some.injEq,
      Prod.mk.injEq, and_true]
    omega
  rw [numbered?, hunit]
  simp only
  rw [if_neg (by omega), if_pos (show c.toNat.isValidChar from c.valid), Char.ofNat_toNat]

/-- **What is written for a character is read as the character**, and leaves the rest alone. -/
theorem text?_escape_append (c : Char) (rest : List Char) :
    text? (escape c ++ rest) = (text? rest).map fun (ds, tail) ↦ (c :: ds, tail) := by
  have hnamed {x d : Char} (h : escape? (x :: rest) = some (d, rest)) :
      text? ('\\' :: x :: rest) = (text? rest).map fun (ds, tail) ↦ (d :: ds, tail) :=
    text?_of_escape h (Nat.le_succ _)
  rw [escape]
  split
  · next h => subst h; exact hnamed rfl
  split
  · next h => subst h; exact hnamed rfl
  split
  · next h => subst h; exact hnamed rfl
  split
  · next h => subst h; exact hnamed rfl
  split
  · next h => subst h; exact hnamed rfl
  split
  · next h => subst h; exact hnamed rfl
  split
  · next h => subst h; exact hnamed rfl
  split
  · next h => exact text?_of_escape (numbered?_of_control h rest) (Nat.le_add_right _ 5)
  · next hquote hslash _ _ _ _ _ hcontrol => exact text?_of_plain hquote hslash hcontrol

/-- **A string ends at its own quote.** -/
theorem text?_flatMap_escape (cs rest : List Char) :
    text? (cs.flatMap escape ++ '"' :: rest) = some (cs, rest) := by
  induction cs with
  | nil => exact text?_quote rest
  | cons c cs ih => rw [List.flatMap_cons, List.append_assoc, text?_escape_append, ih]; rfl

/-! ### Numbers -/

/-- **A number ends where no digit follows.** -/
theorem number?_digits_append (n : Nat) (h : EndsDigits rest) :
    number? (digits n ++ rest) = some (n, rest) := by
  have hdigits := Text.areDigits_toDigits n
  rw [number?, digits, hdigits.takeWhile h, hdigits.dropWhile h]
  split
  · next hnil => exact absurd hnil Nat.toDigits_ne_nil
  · next d ds hzero =>
    -- a zero in front of other digits is refused, and is never written
    rcases Nat.eq_zero_or_pos n with rfl | hpos
    · cases hzero
    · exact absurd (hzero ▸ rfl) (Text.head?_toDigits hpos)
  · rw [Nat.ofDigitChars_ten_toDigits]

/-! ### Blank space -/

/-- Whether some characters are blank space. -/
def IsGap (gap : List Char) : Prop := ∀ c ∈ gap, isBlank c = true

theorem isGap_nil : IsGap [] := nofun

theorem isGap_newline (depth : Nat) : IsGap (newline depth) := by
  intro c hc
  rcases List.mem_cons.1 hc with rfl | hc
  · rfl
  · rw [List.eq_of_mem_replicate hc]
    rfl

theorem skipBlanks_of_not_isBlank (h : isBlank c = false) : skipBlanks (c :: rest) = c :: rest :=
  List.dropWhile_cons_of_neg (Bool.eq_false_iff.1 h)

theorem IsGap.skipBlanks_append (h : IsGap gap) (cs : List Char) :
    skipBlanks (gap ++ cs) = skipBlanks cs := List.dropWhile_append_of_pos h

/-- Blank space is no digit. -/
theorem isDigit_of_isBlank (h : isBlank c = true) : c.isDigit = false := by
  simp only [isBlank, Bool.or_eq_true, beq_iff_eq] at h
  rcases h with ((rfl | rfl) | rfl) | rfl <;> rfl

theorem IsGap.endsDigits (h : IsGap gap) (hc : c.isDigit = false) : EndsDigits (gap ++ c :: rest) := by
  cases gap with
  | nil => rintro _ ⟨⟩; exact hc
  | cons b gap => rintro _ ⟨⟩; exact isDigit_of_isBlank (h b List.mem_cons_self)

/-! ### Layouts -/

/-- Whether documents are written in some layout, with blank space `gap` before the items, members
and closing brackets at each depth and `colon` behind the colon of a member. -/
structure IsLayout (write : Nat → Json → List Char) (gap : Nat → List Char) (colon : List Char) :
    Prop where
  /-- There is only blank space before items and closing brackets. -/
  gap_blank : ∀ depth, IsGap (gap depth)
  /-- There is only blank space behind a colon. -/
  colon_blank : IsGap colon
  /-- A string stands between quotes. -/
  string : ∀ depth text, write depth (.string text) = quote text
  /-- A number is its digits. -/
  number : ∀ depth n, write depth (.number n) = digits n
  /-- A list without items is a pair of brackets. -/
  array_nil : ∀ depth, write depth (.array []) = ['[', ']']
  /-- Other lists have commas between their items. -/
  array_cons : ∀ depth j js, write depth (.array (j :: js)) =
    '[' :: (gap (depth + 1) ++ write (depth + 1) j ++
      (js.flatMap (fun j ↦ ',' :: (gap (depth + 1) ++ write (depth + 1) j)) ++
        (gap depth ++ [']'])))
  /-- An object without members is a pair of braces. -/
  object_nil : ∀ depth, write depth (.object []) = ['\x7b', '\x7d']
  /-- Other objects have commas between their members. -/
  object_cons : ∀ depth m ms, write depth (.object (m :: ms)) =
    '\x7b' :: (gap (depth + 1) ++ (quote m.1 ++ ':' :: (colon ++ write (depth + 1) m.2)) ++
      (ms.flatMap (fun m ↦
          ',' :: (gap (depth + 1) ++ (quote m.1 ++ ':' :: (colon ++ write (depth + 1) m.2)))) ++
        (gap depth ++ ['\x7d'])))

theorem compactItems_eq (js : List Json) :
    compactItems js = js.flatMap fun j ↦ ',' :: compact j := by
  induction js with
  | nil => rfl
  | cons j js ih => rw [compactItems, ih]; rfl

theorem compactMembers_eq (ms : List (String × Json)) :
    compactMembers ms = ms.flatMap fun m ↦ ',' :: (quote m.1 ++ ':' :: compact m.2) := by
  induction ms with
  | nil => rfl
  | cons m ms ih => rw [compactMembers, ih, List.flatMap_cons]; simp

theorem prettyItems_eq (depth : Nat) (js : List Json) :
    prettyItems depth js = js.flatMap fun j ↦ ',' :: (newline depth ++ prettyAt depth j) := by
  induction js with
  | nil => rfl
  | cons j js ih => rw [prettyItems, ih]; rfl

theorem prettyMembers_eq (depth : Nat) (ms : List (String × Json)) :
    prettyMembers depth ms = ms.flatMap fun m ↦
      ',' :: (newline depth ++ (quote m.1 ++ ':' :: ' ' :: prettyAt depth m.2)) := by
  induction ms with
  | nil => rfl
  | cons m ms ih => rw [prettyMembers, ih, List.flatMap_cons]; simp

/-- **The layout on one line has no blank space.** -/
theorem isLayout_compact : IsLayout (fun _ ↦ compact) (fun _ ↦ []) [] where
  gap_blank _ := isGap_nil
  colon_blank := isGap_nil
  string _ _ := by rw [compact]
  number _ _ := by rw [compact]
  array_nil _ := by rw [compact]
  array_cons _ j js := by rw [compact, compactItems_eq]; simp
  object_nil _ := by rw [compact]
  object_cons _ m ms := by rw [compact, compactMembers_eq]; simp

/-- **The layout with an item to a line has line feeds and blanks.** -/
theorem isLayout_pretty : IsLayout prettyAt newline [' '] where
  gap_blank := isGap_newline
  colon_blank := by
    rintro c hc
    obtain rfl := List.mem_singleton.1 hc
    rfl
  string _ _ := by rw [prettyAt]
  number _ _ := by rw [prettyAt]
  array_nil _ := by rw [prettyAt]
  array_cons _ j js := by rw [prettyAt, prettyItems_eq]; simp
  object_nil _ := by rw [prettyAt]
  object_cons _ m ms := by rw [prettyAt, prettyMembers_eq]; simp

/-! ### Reading a layout -/

/-- Whether a document nests no deeper than a limit. -/
def FitsWithin : Nat → Json → Prop
  | _, string _ => True
  | _, number _ => True
  | depth + 1, array items => ∀ j ∈ items, FitsWithin depth j
  | depth + 1, object members => ∀ m ∈ members, FitsWithin depth m.2
  | 0, _ => False

theorem documentWithin?_quote_append (limit : Nat) (text : String) (rest : List Char) :
    documentWithin? limit (quote text ++ rest) = some (.string text, rest) := by
  rw [quote, List.cons_append, List.cons_append, List.append_assoc, documentWithin?]
  rw [List.singleton_append, text?_flatMap_escape]
  exact congrArg some (congrArg (Prod.mk · rest) (congrArg string String.ofList_toList))

/-- What starts with neither a quote nor an opening bracket can only be a number. -/
theorem documentWithin?_of_other (limit : Nat) (hquote : c ≠ '"') (hsquare : c ≠ '[')
    (hcurly : c ≠ '\x7b') :
    documentWithin? limit (c :: rest) =
      (number? (c :: rest)).map fun (n, tail) ↦ (.number n, tail) := by
  rw [documentWithin?.eq_def]
  split <;> simp_all

theorem documentWithin?_digits_append (limit n : Nat) (h : EndsDigits rest) :
    documentWithin? limit (digits n ++ rest) = some (.number n, rest) := by
  obtain ⟨c, ds, hds, hc, -⟩ := Text.exists_toDigits n
  have hread := number?_digits_append n h
  rw [digits, hds, List.cons_append] at hread ⊢
  rw [documentWithin?_of_other limit (Text.ne_of_class hc rfl) (Text.ne_of_class hc rfl)
    (Text.ne_of_class hc rfl), hread]
  rfl

/-- A closing bracket starts no document. -/
theorem documentWithin?_of_closing (limit : Nat) (hc : c = ']' ∨ c = '\x7d') (rest : List Char) :
    documentWithin? limit (c :: rest) = none := by
  have hnone : number? (c :: rest) = none := by
    rw [number?, List.takeWhile_cons_of_neg (by rcases hc with rfl | rfl <;> decide)]
  rw [documentWithin?_of_other limit, hnone]
  · rfl
  all_goals rcases hc with rfl | rfl <;> decide

theorem array?_of_items {document? : List Char → Option (Json × List Char)} {items : List Json}
    {tail : List Char}
    (hitems : items? (item? document?) cs = (items, rest))
    (hrest : skipBlanks rest = ']' :: tail) : array? document? cs = some (.array items, tail) := by
  simp only [array?, hitems, hrest]

theorem member?_of_parts {document? : List Char → Option (Json × List Char)} {key : String}
    {more tail : List Char}
    (hkey : skipBlanks cs = quote key ++ rest) (hcolon : skipBlanks rest = ':' :: more)
    (hvalue : document? (skipBlanks more) = some (j, tail)) :
    member? document? cs = some ((key, j), skipBlanks tail) := by
  have htext : quote key ++ rest = '"' :: (key.toList.flatMap escape ++ '"' :: rest) := by
    simp [quote]
  simp only [member?, hkey, htext, text?_flatMap_escape, hcolon, hvalue, Option.map_some,
    String.ofList_toList]

theorem object?_of_members {document? : List Char → Option (Json × List Char)}
    {members : List (String × Json)} {tail : List Char}
    (hmembers : items? (member? document?) cs = (members, rest))
    (hrest : skipBlanks rest = '\x7d' :: tail) :
    object? document? cs = some (.object members, tail) := by
  simp only [object?, hmembers, hrest]

/-- **Items in a layout come back**, up to the closing bracket. The reader of an item passes over the
blank space behind it. -/
theorem items?_layout {α : Type} (item? : List Char → Option (α × List Char))
    (write : α → List Char) {a : α} {as : List α}
    (hitem : ∀ b ∈ a :: as, ∀ next, EndsDigits next →
      item? (write b ++ next) = some (b, skipBlanks next))
    (hgap : IsGap gap) (hclose : c = ']' ∨ c = '\x7d') (rest : List Char) :
    items? item? (write a ++ (as.flatMap (fun b ↦ ',' :: write b) ++ (gap ++ c :: rest))) =
      (a :: as, c :: rest) := by
  have hblank : isBlank c = false := by rcases hclose with rfl | rfl <;> rfl
  have hdigit : c.isDigit = false := by rcases hclose with rfl | rfl <;> rfl
  have hcomma : c ≠ ',' := by rcases hclose with rfl | rfl <;> decide
  have hend : skipBlanks (gap ++ c :: rest) = c :: rest :=
    (hgap.skipBlanks_append _).trans (skipBlanks_of_not_isBlank hblank)
  refine (Text.items?_flatMap write id ?_ (fun b hb next ↦ ?_) (fun b hb ↦ ?_) ?_).trans
    (by rw [List.map_id])
  · exact (List.suffix_append gap _).length_le
  · exact hitem b hb (',' :: next) (by rintro _ ⟨⟩; rfl)
  · rw [hitem b hb _ (hgap.endsDigits hdigit), hend, id]
  · exact Text.separated?_of_head? fun h ↦ hcomma (Option.some.inj h)

namespace IsLayout

variable {write : Nat → Json → List Char} {gap : Nat → List Char} {colon blank : List Char}

/-- A document does not start with blank space. -/
theorem exists_cons (h : IsLayout write gap colon) (depth : Nat) (j : Json) :
    ∃ c cs, write depth j = c :: cs ∧ isBlank c = false := by
  cases j with
  | string text => exact ⟨_, _, h.string depth text, rfl⟩
  | number n =>
    obtain ⟨c, ds, hds, hc, -⟩ := Text.exists_toDigits n
    refine ⟨c, ds, (h.number depth n).trans hds, Bool.eq_false_iff.2 fun hblank ↦ ?_⟩
    exact Bool.false_ne_true ((isDigit_of_isBlank hblank).symm.trans hc)
  | array items =>
    cases items with
    | nil => exact ⟨_, _, h.array_nil depth, rfl⟩
    | cons j js => exact ⟨_, _, h.array_cons depth j js, rfl⟩
  | object members =>
    cases members with
    | nil => exact ⟨_, _, h.object_nil depth, rfl⟩
    | cons m ms => exact ⟨_, _, h.object_cons depth m ms, rfl⟩

/-- Blank space in front of a document is passed over, and no more. -/
theorem skipBlanks_append (h : IsLayout write gap colon) (hblank : IsGap blank) (depth : Nat)
    (j : Json) (rest : List Char) :
    skipBlanks (blank ++ (write depth j ++ rest)) = write depth j ++ rest := by
  obtain ⟨c, cs, hcs, hc⟩ := h.exists_cons depth j
  rw [hblank.skipBlanks_append, hcs]
  exact skipBlanks_of_not_isBlank hc

variable {limit : Nat}

/-- Whether a document is read where it stands, at any depth. -/
def Reads (write : Nat → Json → List Char) (limit : Nat) (j : Json) : Prop :=
  ∀ depth rest, EndsDigits rest → documentWithin? limit (write depth j ++ rest) = some (j, rest)

/-- Items that are read make a list that is read. -/
theorem reads_array (h : IsLayout write gap colon) {items : List Json}
    (hitems : ∀ j ∈ items, Reads write limit j) : Reads write (limit + 1) (.array items) := by
  intro depth rest _
  cases items with
  | nil =>
    rw [h.array_nil]
    refine array?_of_items (Text.items?_of_none ?_) (skipBlanks_of_not_isBlank rfl)
    show item? _ (']' :: rest) = none
    rw [item?, skipBlanks_of_not_isBlank rfl, documentWithin?_of_closing limit (.inl rfl)]
    rfl
  | cons j js =>
    let text (i : Json) : List Char := gap (depth + 1) ++ write (depth + 1) i
    have hread : ∀ i ∈ j :: js, ∀ next, EndsDigits next →
        item? (documentWithin? limit) (text i ++ next) = some (i, skipBlanks next) := by
      intro i hi next hnext
      rw [item?, List.append_assoc, h.skipBlanks_append (h.gap_blank _), hitems i hi _ _ hnext]
      rfl
    have hall := items?_layout _ text hread (h.gap_blank depth) (.inl rfl) rest
    rw [h.array_cons]
    simp only [text, List.cons_append, List.append_assoc, List.nil_append] at hall ⊢
    exact array?_of_items hall (skipBlanks_of_not_isBlank rfl)

/-- Members that are read make an object that is read. -/
theorem reads_object (h : IsLayout write gap colon) {members : List (String × Json)}
    (hmembers : ∀ m ∈ members, Reads write limit m.2) :
    Reads write (limit + 1) (.object members) := by
  intro depth rest _
  cases members with
  | nil =>
    rw [h.object_nil]
    exact object?_of_members (Text.items?_of_none rfl) (skipBlanks_of_not_isBlank rfl)
  | cons m ms =>
    let text (m : String × Json) : List Char :=
      gap (depth + 1) ++ (quote m.1 ++ ':' :: (colon ++ write (depth + 1) m.2))
    have hread : ∀ n ∈ m :: ms, ∀ next, EndsDigits next →
        member? (documentWithin? limit) (text n ++ next) = some (n, skipBlanks next) := by
      intro n hn next hnext
      have hkey : skipBlanks (text n ++ next) =
          quote n.1 ++ ':' :: (colon ++ (write (depth + 1) n.2 ++ next)) := by
        simp only [text, List.append_assoc, List.cons_append]
        rw [(h.gap_blank _).skipBlanks_append]
        exact skipBlanks_of_not_isBlank rfl
      refine member?_of_parts hkey (skipBlanks_of_not_isBlank rfl) ?_
      rw [h.skipBlanks_append h.colon_blank, hmembers n hn _ _ hnext]
    have hall := items?_layout _ text hread (h.gap_blank depth) (.inr rfl) rest
    rw [h.object_cons]
    simp only [text, List.cons_append, List.append_assoc, List.nil_append] at hall ⊢
    exact object?_of_members hall (skipBlanks_of_not_isBlank rfl)

/-- **A document is read from its layout**, if it does not nest too deeply. -/
theorem reads (h : IsLayout write gap colon) {limit : Nat} {j : Json} (hj : j.FitsWithin limit) :
    Reads write limit j := by
  induction limit generalizing j with
  | zero =>
    intro depth rest hrest
    cases j with
    | string text => rw [h.string]; exact documentWithin?_quote_append 0 text rest
    | number n => rw [h.number]; exact documentWithin?_digits_append 0 n hrest
    | array items => exact hj.elim
    | object members => exact hj.elim
  | succ limit ih =>
    cases j with
    | string text =>
      intro depth rest hrest
      rw [h.string]
      exact documentWithin?_quote_append _ text rest
    | number n =>
      intro depth rest hrest
      rw [h.number]
      exact documentWithin?_digits_append _ n hrest
    | array items => exact h.reads_array fun j hj' ↦ ih (hj j hj')
    | object members => exact h.reads_object fun m hm ↦ ih (hj m hm)

end IsLayout

/-! ### Documents one after the other -/

theorem documents?_of_skipBlanks_eq_nil (h : skipBlanks cs = []) : documents? cs = some [] := by
  rw [documents?, h]

theorem documents?_of_document? {tail : List Char} (hcs : skipBlanks cs = c :: rest)
    (hread : document? (c :: rest) = some (j, tail)) (hlength : tail.length < cs.length) :
    documents? cs = (documents? tail).map (j :: ·) := by
  rw [documents?, hcs]
  simp only [hread, if_pos hlength]

/-- A document that is read where it stands comes first. -/
theorem IsLayout.documents?_append {write : Nat → Json → List Char} {gap : Nat → List Char}
    {colon blank : List Char} (h : IsLayout write gap colon) (hblank : IsGap blank)
    (hj : j.FitsWithin deepest) (depth : Nat) (hrest : EndsDigits rest) :
    documents? (blank ++ (write depth j ++ rest)) = (documents? rest).map (j :: ·) := by
  obtain ⟨c, cs, hcs, -⟩ := h.exists_cons depth j
  have hskip := h.skipBlanks_append hblank depth j rest
  have hread : document? (write depth j ++ rest) = some (j, rest) := h.reads hj depth rest hrest
  rw [hcs, List.cons_append] at hskip hread
  rw [hcs, List.cons_append]
  refine documents?_of_document? hskip hread ?_
  simp only [List.length_append, List.length_cons]
  omega

/-- **Documents that are written one after the other come back one by one.** -/
theorem documents?_flatMap (js : List Json) (hjs : ∀ j ∈ js, j.FitsWithin deepest)
    (hgap : IsGap gap) :
    documents? (gap ++ js.flatMap fun j ↦ j.pretty ++ ['\n']) = some js := by
  induction js generalizing gap with
  | nil => exact documents?_of_skipBlanks_eq_nil (hgap.skipBlanks_append [])
  | cons j js ih =>
    obtain ⟨hj, hrest⟩ := List.forall_mem_cons.1 hjs
    -- the line feed behind a document is blank space in front of the next one
    have hfeed : IsGap ['\n'] := List.forall_mem_singleton.2 rfl
    have hmore := ih hrest hfeed
    rw [List.flatMap_cons, List.append_assoc, pretty,
      isLayout_pretty.documents?_append hgap hj 0 (by rintro _ ⟨⟩; rfl), hmore]
    rfl

/-- **A document on one line comes back.** -/
theorem documents?_compact (hj : j.FitsWithin deepest) : documents? j.compact = some [j] := by
  have hread : documents? ([] ++ (j.compact ++ [])) = (documents? []).map (j :: ·) :=
    isLayout_compact.documents?_append isGap_nil hj 0 nofun
  have hnil : documents? [] = some [] := documents?_of_skipBlanks_eq_nil rfl
  rw [hnil, List.nil_append, List.append_nil] at hread
  exact hread

theorem ofBytes?_toUTF8 (text : String) : ofBytes? text.toUTF8 = documents? text.toList := by
  have h : String.fromUTF8? text.toUTF8 = some text := dif_pos text.isValidUTF8
  rw [ofBytes?, h]
  rfl

/-- Documents that tell what they were made of tell it one by one. -/
theorem mapM_map_eq_some {α β : Type} {write : α → Json} {read? : Json → Option β}
    {content : α → β} {as : List α} (h : ∀ a ∈ as, read? (write a) = some (content a)) :
    (as.map write).mapM read? = some (as.map content) := by
  induction as with
  | nil => rfl
  | cons a as ih =>
    obtain ⟨ha, has⟩ := List.forall_mem_cons.1 h
    rw [List.map_cons, List.mapM_cons, ha, ih has]
    rfl

end TokenScan.Json
