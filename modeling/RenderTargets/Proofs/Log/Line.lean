import Mathlib.Data.Int.Notation
import Mathlib.Data.Nat.Notation
import RenderTargets.Log.Entry
/-!
# Lines of the journal

An entry is written plain, or styled for a terminal, and each form tells by itself whether there is
a place to name. Yet both are **one line with two gaps** (`Entry.lineOf`), for severity and source:
plain words stand there, or painted ones. So without colors a terminal shows the plain line.

The painter may be any that puts one style sequence before a word and one after it
(`Painter.Wraps`), and the clock any whose texts do not escape. `Style.paint` is such a painter
(`Style.wraps_paint`), and `Timestamp.text?` is such a clock (`unescaped_of_text?`).

## Taking colors off again

What a painted word adds to a line are two style sequences. `Style.Bares` says which sequences are
taken off a text, and that all else stays. It speaks of texts that are told apart at the first
escape: nothing escapes before a span or in it. Then the sequences taken off are the first ones that
a terminal meets, and `Style.strip` finds them in the text alone (`Bares.strip_eq`).

Before the source, nothing in a line escapes: times do not, and severities are letters. So if
nothing escapes in the source either, the first four sequences are those around severity and source,
**whatever the message holds** (`styled_bares_plain`).
-/

namespace RenderTargets.Log

/-- There is no character in the text that could begin a style sequence. -/
def Unescaped (text : String) : Prop := '\x1b' ∉ text.toList

instance {text : String} : Decidable (Unescaped text) := inferInstanceAs (Decidable ¬_)

theorem unescaped_append {a b : String} : Unescaped (a ++ b) ↔ Unescaped a ∧ Unescaped b := by
  simp [Unescaped, not_or]

/-! ### Style sequences -/

/-- The painter leaves text as it is where there are no colors. With colors it writes the style, the
text and a reset, at least where nothing in the text escapes. -/
structure Painter.Wraps (paint : Painter) : Prop where
  /-- Without colors. -/
  bare : ∀ s text, paint s false text = text
  /-- With colors. -/
  wrapped : ∀ s text, Unescaped text → paint s true text = s.opening ++ text ++ Style.reset

namespace Style

/-- The text after the style sequence that it begins with: an escape and a bracket, then numbers
parted by semicolons, then an `m`. -/
def afterSequence? : List Char → Option (List Char)
  | '\x1b' :: '[' :: text =>
    match text.dropWhile fun c ↦ c.isDigit || c == ';' with
    | 'm' :: after => some after
    | _ => none
  | _ => none

/-- The text without its first `n` style sequences. -/
def dropSequences : ℕ → List Char → List Char
  | 0, text => text
  | _ + 1, [] => []
  | n + 1, c :: text =>
    match afterSequence? (c :: text) with
    | some after => dropSequences n after
    | none => c :: dropSequences (n + 1) text

/-- The text without its first `n` style sequences. -/
def strip (n : ℕ) (text : String) : String := .ofList (dropSequences n text.toList)

variable {s : Style} {n : ℕ} {text styled bare : String} {spans : List (Style × String)}

theorem afterSequence?_opening (s : Style) (l : List Char) :
    afterSequence? (s.opening.toList ++ l) = some l := by
  rcases s with ⟨color, bold⟩
  cases color <;> cases bold <;> simp [opening, Color.code, afterSequence?]

theorem afterSequence?_reset (l : List Char) : afterSequence? (reset.toList ++ l) = some l := by
  simp [reset, afterSequence?]

/-- A sequence that the text begins with is the first to go. -/
theorem dropSequences_of_afterSequence? {l after : List Char} (h : afterSequence? l = some after) :
    dropSequences (n + 1) l = dropSequences n after := by
  cases l with
  | nil => cases h
  | cons c l => rw [dropSequences, h]

/-- What does not escape stays. -/
theorem dropSequences_append {p l : List Char} (hp : '\x1b' ∉ p) :
    dropSequences n (p ++ l) = p ++ dropSequences n l := by
  cases n with
  | zero => rw [dropSequences, dropSequences]
  | succ n =>
    induction p with
    | nil => rfl
    | cons c p ih =>
      rw [List.mem_cons, not_or] at hp
      have hnone : afterSequence? (c :: (p ++ l)) = none := by
        rw [afterSequence?]
        rintro rest hc
        exact hp.1 (List.cons.inj hc).1.symm
      rw [List.cons_append, dropSequences, hnone, List.cons_append, ih hp.2]

/-- A text without escapes has no reset in it. -/
theorem reopen_of_notMem {start l : List Char} (h : '\x1b' ∉ l) : reopen start l = l := by
  induction l with
  | nil => rfl
  | cons c l ih =>
    rw [List.mem_cons, not_or] at h
    rw [reopen, ih h.2]
    rintro rest hc -
    exact h.1 hc.symm

theorem wraps_paint : Painter.Wraps paint where
  bare _ _ := rfl
  wrapped s text h := by rw [paint, if_pos rfl, reopen_of_notMem h, String.ofList_toList]

/-! ### Which sequences are taken off -/

/-- `bare` is `styled` without the sequences around the spans, and the same otherwise. -/
inductive Bares : List (Style × String) → String → String → Prop
  /-- Where no span is left, nothing is taken off. -/
  | rest (text : String) : Bares [] text text
  /-- A style begins before the next span and ends after it. -/
  | span {s : Style} {before text styled bare : String} {spans : List (Style × String)}
      (unescaped_before : Unescaped before) (unescaped_text : Unescaped text)
      (rest : Bares spans styled bare) :
      Bares ((s, text) :: spans) (before ++ (s.opening ++ text ++ reset) ++ styled)
        (before ++ text ++ bare)

/-- The sequences around the spans are the first ones in the text. -/
theorem Bares.strip_eq (h : Bares spans styled bare) : strip (2 * spans.length) styled = bare := by
  suffices hdrop : dropSequences (2 * spans.length) styled.toList = bare.toList by
    rw [strip, hdrop, String.ofList_toList]
  induction h with
  | rest text => rw [List.length_nil, Nat.mul_zero, dropSequences]
  | @span s before text styled bare spans hbefore htext _ ih =>
    simp only [String.toList_append, List.append_assoc, List.length_cons, Nat.mul_succ]
    rw [dropSequences_append hbefore, dropSequences_of_afterSequence? (afterSequence?_opening s _),
      dropSequences_append htext, dropSequences_of_afterSequence? (afterSequence?_reset _), ih]

end Style

/-! ### Times -/

theorem isDigit_of_mem_padded {width n : ℕ} {c : Char} (h : c ∈ (padded width n).toList) :
    c.isDigit := by
  rw [padded, String.toList_ofList, List.mem_append, List.mem_replicate] at h
  rcases h with ⟨-, rfl⟩ | h
  · rfl
  · exact Nat.isDigit_of_mem_toDigits (by decide) (by decide) h

theorem unescaped_padded (width n : ℕ) : Unescaped (padded width n) :=
  fun h ↦ absurd (isDigit_of_mem_padded h) (by decide)

theorem unescaped_yearText (y : ℤ) : Unescaped (yearText y) := by
  rw [yearText]
  split
  · exact unescaped_padded 4 _
  · split <;> exact unescaped_append.2 ⟨by decide, unescaped_padded 4 _⟩

/-- Nothing escapes in the text of a time. -/
theorem unescaped_of_text? {t : Timestamp} {time : String} (h : t.text? = some time) :
    Unescaped time := by
  rw [Timestamp.text?] at h
  split at h
  · obtain rfl := Option.some.inj h
    simp only [unescaped_append, toString, unescaped_padded, unescaped_yearText]
    decide
  · cases h

/-! ### Entries -/

theorem Severity.unescaped_label (s : Severity) : Unescaped s.label := by cases s <;> decide

namespace Entry

variable {e : Entry} {paint : Painter} {time : String}

/-- What follows the source in a line. -/
def ending (e : Entry) : String :=
  "] " ++ e.message ++ (e.place?.elim "" fun p ↦ " (" ++ p ++ ")") ++ "\n"

/-- The line of an entry, with a time and with words for severity and source. -/
def lineOf (e : Entry) (time severity source : String) : String :=
  "[" ++ time ++ "] [" ++ severity ++ "] [" ++ source ++ e.ending

theorem plain_append_newline :
    e.plain time ++ "\n" = e.lineOf time e.severity.label e.source := by
  rw [plain, lineOf, ending]
  cases e.place? <;> simp [toString, String.append_assoc]

theorem styledBy_eq_lineOf {colors : Bool} :
    e.styledBy paint colors time = e.lineOf time (paint e.severity.style colors e.severity.label)
      (paint sourceStyle colors e.source) := by
  rw [styledBy, lineOf, ending]
  cases e.place? <;> simp [toString, String.append_assoc]

/-- The sequences of a styled line are those around severity and source. -/
theorem bares_styledBy (hpaint : paint.Wraps) (htime : Unescaped time)
    (hsource : Unescaped e.source) :
    Style.Bares [(e.severity.style, e.severity.label), (sourceStyle, e.source)]
      (e.styledBy paint true time) (e.plain time ++ "\n") := by
  have hbefore : Unescaped ("[" ++ time ++ "] [") := by
    simp only [unescaped_append, htime]
    decide
  have hbetween : Unescaped "] [" := by decide
  have hspans := Style.Bares.span (s := e.severity.style) hbefore e.severity.unescaped_label
    (.span (s := sourceStyle) hbetween hsource (.rest e.ending))
  rw [plain_append_newline, styledBy_eq_lineOf, lineOf, lineOf,
    hpaint.wrapped _ _ e.severity.unescaped_label, hpaint.wrapped _ _ hsource]
  simpa only [String.append_assoc] using hspans

/-- **Both forms of an entry agree**, at every time that a clock has a text for. Without colors a
terminal shows the plain line. With colors, the sequences around severity and source, which are the
first four, are all that it has more. -/
theorem styled_bares_plain (e : Entry) {clock : Clock} {t : Timestamp} (hpaint : paint.Wraps)
    (hclock : ∀ t text, clock t = some text → Unescaped text) (ht : clock t = some time) :
    e.styledBy paint false time = e.plain time ++ "\n" ∧
      (Unescaped e.source →
        Style.Bares [(e.severity.style, e.severity.label), (sourceStyle, e.source)]
          (e.styledBy paint true time) (e.plain time ++ "\n") ∧
        Style.strip 4 (e.styledBy paint true time) = e.plain time ++ "\n") := by
  constructor
  · rw [plain_append_newline, styledBy_eq_lineOf, hpaint.bare, hpaint.bare]
  · intro hsource
    have hbares := bares_styledBy hpaint (hclock t time ht) hsource
    exact ⟨hbares, hbares.strip_eq⟩

/-- Escapes in the message stay. -/
theorem styled_bares_plain_escapes :
    let e : Entry := ⟨.error, "mrt::app", "\x1b[0m lost \x1b[31m", some "a.rs", some 7⟩
    (⟨-1, 0⟩ : Timestamp).text? = some "1969-12-31 23:59:59.000" ∧ Unescaped e.source ∧
      Style.strip 4 (e.styled true "1969-12-31 23:59:59.000") =
        "[1969-12-31 23:59:59.000] [ERROR] [mrt::app] \x1b[0m lost \x1b[31m (a.rs:7)\n" := by
  intro e
  have htext : (⟨-1, 0⟩ : Timestamp).text? = some "1969-12-31 23:59:59.000" := by decide +kernel
  have hsource : Unescaped e.source := by decide
  have hclock (t : Timestamp) (text : String) (h : t.text? = some text) : Unescaped text :=
    unescaped_of_text? h
  have hagree := styled_bares_plain e Style.wraps_paint hclock htext
  refine ⟨htext, hsource, (hagree.2 hsource).2.trans ?_⟩
  decide +kernel

end Entry

end RenderTargets.Log
