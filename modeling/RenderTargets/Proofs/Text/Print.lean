import Mathlib.Data.List.Basic
import RenderTargets.Proofs.Text.Pixels
/-!
# Printed text

Where a character of a printed text goes can be told from the text before it (`Pen.after`): its row
is that of the line feeds, and its column that of the characters since the last one that ended a
line or went back to its start. So the marks that calls leave can be told from the calls alone
(`Pen.marksOf`), and laying the text out lights the pixels of these marks and no others
(`DebugText.performAll_lights`).

## Marks and glyphs

Every character but a break leaves a mark, also a blank. A blank is not placed as a glyph: it has no
set pixel, so that its mark lights nothing. All other marks light something
(`Text.exists_isSet`).

## Where the text has to fit

The cursor is counted by unsigned words, and they have to hold it after each character
(`Pen.FitsAll`). Pixels are counted by signed words, and these have to hold the pixels that the
marks light (`Text.OnScreen`).
-/

namespace RenderTargets

open Text Word

/-! ### Marks -/

namespace Text

/-- The character ends a line, or it goes back to its start. -/
def isBreak (c : Char) : Bool := c == '\n' || c == '\r'

/-- The row after some characters. -/
def rowAfter (start : ℕ) (before : List Char) : ℕ := start + before.count '\n'

/-- The column after some characters: the number of those since the last break, or that of all of
them from the column at the start on. -/
def columnAfter (start : ℕ) (before : List Char) : ℕ :=
  if before.any isBreak then (before.reverse.takeWhile fun c ↦ !isBreak c).length
  else start + before.length

/-- The character that is shown for one. -/
def shownAs (c : Char) : Char := if 0x20 ≤ c.toNat ∧ c.toNat < 0x7f then c else '?'

/-- The rows of the character that is shown for one. -/
def bitmap (c : Char) : List UInt8 := glyphs[(shownAs c).toNat - firstGlyph]?.getD []

/-- What the next character is printed with. -/
structure Pen where
  /-- The column. -/
  column : ℕ
  /-- The row. -/
  row : ℕ
  /-- The scale. -/
  scale : Scale
  /-- The color. -/
  color : Vec4

/-- A character that is shown. -/
structure Mark where
  /-- The character. -/
  char : Char
  /-- What it is printed with. -/
  pen : Pen

variable {pen : Pen} {before rest text : List Char} {c : Char}

/-- The pen after some characters. -/
def Pen.after (pen : Pen) (before : List Char) : Pen :=
  { pen with column := columnAfter pen.column before, row := rowAfter pen.row before }

/-- The marks of a text. Its breaks leave none. -/
def Pen.marks (pen : Pen) (text : List Char) : List Mark :=
  (text.zipIdx.filter fun (c, _) ↦ !isBreak c).map fun (c, p) ↦ ⟨c, pen.after (text.take p)⟩

/-- The cells before, within and after a text are counted by unsigned words. -/
def Pen.Fits (pen : Pen) (text : List Char) : Prop :=
  ∀ n ≤ text.length, (pen.after (text.take n)).column < UInt32.size ∧
    (pen.after (text.take n)).row < UInt32.size

instance : Decidable (pen.Fits text) := inferInstanceAs (Decidable (∀ n ≤ _, _ ∧ _))

/-- The glyph is that of the mark. -/
structure Placed.Shows (g : Placed) (m : Mark) : Prop where
  /-- It is in the column of the mark. -/
  column : g.cell.column.toNat = m.pen.column
  /-- It is in the row of the mark. -/
  row : g.cell.row.toNat = m.pen.row
  /-- It is the glyph for the character. -/
  rows : glyph g.code = bitmap m.char
  /-- It has the scale of the mark. -/
  scale : g.scale = m.pen.scale
  /-- It has the color of the mark. -/
  color : g.color = m.pen.color

theorem isBreak_eq_false (hfeed : c ≠ '\n') (hreturn : c ≠ '\r') : isBreak c = false := by
  simp [isBreak, hfeed, hreturn]

@[simp]
theorem Pen.after_nil : pen.after [] = pen := rfl

theorem Pen.after_feed :
    pen.after (before ++ ['\n']) = { pen with column := 0, row := (pen.after before).row + 1 } := by
  simp [Pen.after, columnAfter, rowAfter, isBreak, Nat.add_assoc]

theorem Pen.after_return :
    pen.after (before ++ ['\r']) = { pen.after before with column := 0 } := by
  simp [Pen.after, columnAfter, rowAfter, isBreak]

theorem Pen.after_shown (hfeed : c ≠ '\n') (hreturn : c ≠ '\r') :
    pen.after (before ++ [c]) =
      { pen.after before with column := (pen.after before).column + 1 } := by
  have hbreak := isBreak_eq_false hfeed hreturn
  have hrow : rowAfter pen.row (before ++ [c]) = rowAfter pen.row before := by
    simp [rowAfter, hfeed]
  have hcolumn : columnAfter pen.column (before ++ [c]) = columnAfter pen.column before + 1 := by
    by_cases hany : before.any isBreak
    · simp [columnAfter, hany, hbreak]
    · simp [columnAfter, hany, hbreak, Nat.add_assoc]
  rw [Pen.after, hrow, hcolumn]
  rfl

/-- The marks of a text that comes after some characters. -/
def Pen.marksAfter (pen : Pen) (before text : List Char) : List Mark :=
  (text.zipIdx.filter fun (c, _) ↦ !isBreak c).map fun (c, p) ↦
    ⟨c, pen.after (before ++ text.take p)⟩

@[simp]
theorem Pen.marksAfter_nil : pen.marksAfter before [] = [] := rfl

/-- The marks are that of the first character, unless it is a break, and those of the others. -/
theorem Pen.marksAfter_cons : pen.marksAfter before (c :: rest) =
    (if isBreak c then [] else [⟨c, pen.after before⟩]) ++ pen.marksAfter (before ++ [c]) rest := by
  have hrest : rest.zipIdx 1 = rest.zipIdx.map fun (d, p) ↦ (d, p + 1) := List.zipIdx_succ ..
  rw [marksAfter, marksAfter, List.zipIdx_cons, Nat.zero_add, hrest, List.filter_cons,
    List.filter_map]
  by_cases hc : isBreak c <;> simp [hc, Function.comp_def]

/-! ### Glyphs of characters -/

theorem hasGlyph_iff {code : ℕ} : hasGlyph code ↔ 0x20 ≤ code ∧ code < 0x7f := by
  have hlength : glyphs.length = 95 := by decide
  rw [hasGlyph, hlength, Bool.and_eq_true, decide_eq_true_iff, decide_eq_true_iff]
  rfl

/-- The glyph that is placed for a character is that of the character that is shown for it. -/
theorem glyph_eq_bitmap (c : Char) :
    glyph (if c.toNat < 128 then c.toNat else substitute) = bitmap c := by
  rw [bitmap, shownAs, glyph]
  by_cases hc : 0x20 ≤ c.toNat ∧ c.toNat < 0x7f
  · rw [if_pos hc, if_pos (show c.toNat < 128 by omega), if_pos (hasGlyph_iff.2 hc)]
  · rw [if_neg hc]
    by_cases hascii : c.toNat < 128
    · rw [if_pos hascii, if_neg (mt hasGlyph_iff.1 hc)]
      rfl
    · rw [if_neg hascii, ite_self]
      rfl

/-- The blank has no set pixel. -/
theorem not_isSet_blank {row k : ℕ} : ¬ IsSet (bitmap ' ') row k := by
  rintro ⟨bits, hbits, hlit⟩
  have hrows : bitmap ' ' = List.replicate 8 0 := rfl
  have hzero : bits = 0 := List.eq_of_mem_replicate (hrows ▸ List.mem_of_getElem? hbits)
  rw [hzero, isLit, UInt8.toNat_zero, Nat.zero_testBit] at hlit
  cases hlit

/-- All other characters have a set pixel. -/
theorem exists_isSet (hblank : c ≠ ' ') : ∃ row k, IsSet (bitmap c) row k := by
  have hset : ∀ n < 95, 0 < n → ∃ bits ∈ glyphs[n]?.getD [], ∃ k < 8, isLit bits k := by decide
  have hshown : 0x20 < (shownAs c).toNat ∧ (shownAs c).toNat < 0x7f := by
    rw [shownAs]
    split
    · next hprintable =>
      exact ⟨Nat.lt_of_le_of_ne hprintable.1 fun h ↦ hblank (Char.toNat_inj.1 h.symm),
        hprintable.2⟩
    · decide
  obtain ⟨bits, hbits, k, -, hlit⟩ := hset ((shownAs c).toNat - firstGlyph)
    (by rw [firstGlyph]; omega) (by rw [firstGlyph]; omega)
  obtain ⟨row, hrow⟩ := List.getElem?_of_mem hbits
  exact ⟨row, k, bits, hrow, hlit⟩

end Text

/-! ### Calls -/

namespace Text

/-- A call that sets how text is printed, or prints some. -/
inductive Call
  /-- Sets the scale. -/
  | setScale (scale : Vec2)
  /-- Sets the color. -/
  | setColor (color : Vec4)
  /-- Moves the cursor. -/
  | moveTo (cell : Cell)
  /-- Prints text. -/
  | print (text : String)

/-- The pen after a call. -/
def Pen.next (pen : Pen) : Call → Pen
  | .setScale s => { pen with scale := ⟨wholePixels s.x, wholePixels s.y⟩ }
  | .setColor color => { pen with color }
  | .moveTo cell => { pen with column := cell.column.toNat, row := cell.row.toNat }
  | .print text => pen.after text.toList

/-- The text printed by a call. -/
def Call.text : Call → List Char
  | .print text => text.toList
  | _ => []

/-- The marks of calls, one after another. -/
def Pen.marksOf (pen : Pen) : List Call → List Mark
  | [] => []
  | c :: rest => pen.marks c.text ++ (pen.next c).marksOf rest

/-- The cells that the calls go through are counted by unsigned words. -/
def Pen.FitsAll (pen : Pen) : List Call → Prop
  | [] => True
  | c :: rest => pen.Fits c.text ∧ (pen.next c).FitsAll rest

instance Pen.decidableFitsAll : (pen : Pen) → (calls : List Call) → Decidable (pen.FitsAll calls)
  | _, [] => .isTrue trivial
  | pen, c :: rest =>
    haveI := decidableFitsAll (pen.next c) rest
    inferInstanceAs (Decidable (_ ∧ _))

/-- A pixel of the screen is one of those for a set pixel of the mark. -/
abbrev Mark.Lights (m : Mark) (x y : ℤ) : Prop :=
  Text.Lights m.pen.scale m.pen.column m.pen.row (bitmap m.char) x y

/-- The screen has the place of a mark. -/
abbrev Mark.OnScreen (m : Mark) : Prop :=
  Text.OnScreen m.pen.scale m.pen.column m.pen.row (bitmap m.char)

theorem Placed.Shows.onScreen_iff {g : Placed} {m : Mark} (h : g.Shows m) :
    g.OnScreen ↔ m.OnScreen := by
  rw [Placed.OnScreen, h.scale, h.column, h.row, h.rows]

theorem Placed.Shows.lights_iff {g : Placed} {m : Mark} (h : g.Shows m) {x y : ℤ} :
    g.Lights x y ↔ m.Lights x y := by
  rw [Placed.Lights, h.scale, h.column, h.row, h.rows]

/-- Blanks light no pixels. -/
theorem exists_mem_filter_iff {marks : List Mark} {x y : ℤ} :
    (∃ m ∈ marks.filter (·.char ≠ ' '), m.Lights x y) ↔ ∃ m ∈ marks, m.Lights x y := by
  simp only [List.mem_filter, decide_eq_true_eq]
  constructor
  · rintro ⟨m, ⟨hm, -⟩, hlit⟩
    exact ⟨m, hm, hlit⟩
  · rintro ⟨m, hm, hlit⟩
    refine ⟨m, ⟨hm, fun hblank ↦ ?_⟩, hlit⟩
    obtain ⟨row, k, hset, -⟩ := hlit
    rw [hblank] at hset
    exact not_isSet_blank hset

/-- Glyphs of marks on the screen have their runs. -/
theorem Placed.Shows.exists_areRuns {g : Placed} {m : Mark} (h : g.Shows m) (hblank : m.char ≠ ' ')
    (hscale : m.pen.scale.Positive) (hscreen : m.OnScreen) :
    ∃ rects, DebugText.glyphRects? g = some rects ∧ rects ≠ [] ∧ DebugText.AreRuns g rects := by
  refine DebugText.exists_areRuns (h.scale ▸ hscale) (h.onScreen_iff.2 hscreen) ?_
  rw [h.rows]
  exact exists_isSet hblank

/-- The pen keeps a positive scale, so that the marks have one. -/
theorem Pen.positive_of_mem_marksOf {pen : Pen} {calls : List Call} {m : Mark}
    (h : pen.scale.Positive) (hm : m ∈ pen.marksOf calls) : m.pen.scale.Positive := by
  induction calls generalizing pen with
  | nil => cases hm
  | cons call rest ih =>
    rcases List.mem_append.1 hm with hm | hm
    · obtain ⟨a, -, rfl⟩ := List.mem_map.1 hm
      exact h
    · refine ih ?_ hm
      cases call with
      | setScale s => exact ⟨wholePixels_pos s.x, wholePixels_pos s.y⟩
      | setColor | moveTo | print => exact h

end Text

namespace DebugText

/-- Performs a call. -/
def perform (t : DebugText) : Text.Call → Option DebugText
  | .setScale scale => some (t.setScale scale)
  | .setColor color => some { t with color }
  | .moveTo cell => some { t with cursor := cell }
  | .print text => t.print? text

/-- Performs calls one after another. -/
def performAll (t : DebugText) : List Text.Call → Option DebugText
  | [] => some t
  | c :: rest => do performAll (← t.perform c) rest

/-- What the next character of a text is printed with. -/
def pen (t : DebugText) : Pen := ⟨t.cursor.column.toNat, t.cursor.row.toNat, t.scale, t.color⟩

/-- The text `t'` is `t` with glyphs for some marks, blanks apart, and it goes on with a pen. -/
structure Adds (t t' : DebugText) (p : Pen) (marks : List Mark) : Prop where
  /-- The pen it goes on with. -/
  pen : t'.pen = p
  /-- The glyphs. -/
  placed : ∃ glyphs, t'.placed = t.placed ++ glyphs ∧
    List.Forall₂ Placed.Shows glyphs (marks.filter (·.char ≠ ' '))

variable {t t' t'' : DebugText} {p q : Pen} {marks marks' : List Mark} {before text : List Char}
  {c : Char}

theorem Adds.nil (h : t'.pen = p) (hplaced : t'.placed = t.placed) : Adds t t' p [] :=
  ⟨h, [], by rw [hplaced, List.append_nil], .nil⟩

theorem Adds.trans (h : Adds t t' p marks) (h' : Adds t' t'' q marks') :
    Adds t t'' q (marks ++ marks') := by
  obtain ⟨glyphs, hglyphs, hshows⟩ := h.placed
  obtain ⟨glyphs', hglyphs', hshows'⟩ := h'.placed
  refine ⟨h'.pen, glyphs ++ glyphs', by rw [hglyphs', hglyphs, List.append_assoc], ?_⟩
  rw [List.filter_append]
  exact List.rel_append hshows hshows'

/-- A character that fits is printed where its mark is. -/
theorem exists_adds_put (ht : t.pen = p.after before)
    (hcolumn : (p.after (before ++ [c])).column < UInt32.size)
    (hrow : (p.after (before ++ [c])).row < UInt32.size) :
    ∃ t', t.put c = some t' ∧ Adds t t' (p.after (before ++ [c]))
      (if isBreak c then [] else [⟨c, p.after before⟩]) := by
  have hcolumnNat : t.cursor.column.toNat = (p.after before).column := congrArg Pen.column ht
  have hrowNat : t.cursor.row.toNat = (p.after before).row := congrArg Pen.row ht
  have hscale : t.scale = p.scale := congrArg Pen.scale ht
  have hcolor : t.color = p.color := congrArg Pen.color ht
  by_cases hfeed : c = '\n'
  · subst hfeed
    rw [Pen.after_feed] at hrow ⊢
    obtain ⟨next, hnext, hnextNat⟩ := exists_add? (a := t.cursor.row) (b := 1)
      (by rw [hrowNat]; exact hrow)
    refine ⟨{ t with cursor := ⟨0, next⟩ }, by simp [put, hnext], .nil ?_ rfl⟩
    rw [pen, ← hrowNat]
    simp [hnextNat, hscale, hcolor]
  by_cases hreturn : c = '\r'
  · subst hreturn
    rw [Pen.after_return]
    refine ⟨{ t with cursor := { t.cursor with column := 0 } }, rfl, .nil ?_ rfl⟩
    rw [← ht]
    rfl
  rw [isBreak_eq_false hfeed hreturn]
  rw [Pen.after_shown hfeed hreturn] at hcolumn ⊢
  obtain ⟨next, hnext, hnextNat⟩ := exists_add? (a := t.cursor.column) (b := 1)
    (by rw [hcolumnNat]; exact hcolumn)
  have hpen : p.after before = t.pen := ht.symm
  have hnextPen : Pen.mk next.toNat t.cursor.row.toNat t.scale t.color =
      { t.pen with column := t.pen.column + 1 } := by
    rw [hnextNat]
    rfl
  rw [hpen]
  by_cases hblank : c = ' '
  · refine ⟨{ t with cursor := { t.cursor with column := next } }, ?_, hnextPen, [], ?_, ?_⟩
    · simp [put, hblank, hnext]
    · exact (List.append_nil _).symm
    · simp [hblank]
  · let g : Placed := ⟨t.cursor, if c.toNat < 128 then c.toNat else substitute, t.scale, t.color⟩
    refine ⟨{ t with cursor := { t.cursor with column := next }, placed := t.placed ++ [g] }, ?_,
      hnextPen, [g], rfl, ?_⟩
    · simp [put, hfeed, hreturn, hblank, hnext, g]
    · have hshows : Placed.Shows g ⟨c, t.pen⟩ := ⟨rfl, rfl, glyph_eq_bitmap c, rfl, rfl⟩
      simpa [hblank] using hshows

/-- Text that fits is printed where its marks are. -/
theorem exists_adds_putAll (ht : t.pen = p.after before)
    (hfits : ∀ n ≤ text.length, (p.after (before ++ text.take n)).column < UInt32.size ∧
      (p.after (before ++ text.take n)).row < UInt32.size) :
    ∃ t', t.putAll text = some t' ∧
      Adds t t' (p.after (before ++ text)) (p.marksAfter before text) := by
  induction text generalizing t before with
  | nil => exact ⟨t, rfl, .nil (by rw [List.append_nil, ht]) rfl⟩
  | cons c rest ih =>
    obtain ⟨hcolumn, hrow⟩ := hfits 1 (by rw [List.length_cons]; omega)
    obtain ⟨t', ht', hadds⟩ := exists_adds_put ht hcolumn hrow
    obtain ⟨t'', ht'', hadds'⟩ := ih hadds.pen fun n hn ↦ by
      rw [List.append_assoc]
      exact hfits (n + 1) (Nat.succ_le_succ hn)
    refine ⟨t'', by simp [putAll, ht', ht''], ?_⟩
    rw [Pen.marksAfter_cons, List.append_cons]
    exact hadds.trans hadds'

/-- A call whose text fits prints the text where its marks are. -/
theorem exists_adds_perform (call : Text.Call) (hfits : t.pen.Fits call.text) :
    ∃ t', t.perform call = some t' ∧ Adds t t' (t.pen.next call) (t.pen.marks call.text) := by
  cases call with
  | setScale scale => exact ⟨_, rfl, .nil rfl rfl⟩
  | setColor color => exact ⟨_, rfl, .nil rfl rfl⟩
  | moveTo cell => exact ⟨_, rfl, .nil rfl rfl⟩
  | print text =>
    have ht : t.pen = t.pen.after [] := rfl
    exact exists_adds_putAll ht hfits

/-- Calls whose texts fit print the texts where their marks are. -/
theorem exists_adds_performAll (calls : List Text.Call) (hfits : t.pen.FitsAll calls) :
    ∃ t', t.performAll calls = some t' ∧ Adds t t' t'.pen (t.pen.marksOf calls) := by
  induction calls generalizing t with
  | nil => exact ⟨t, rfl, .nil rfl rfl⟩
  | cons call rest ih =>
    obtain ⟨t', ht', hadds⟩ := exists_adds_perform call hfits.1
    obtain ⟨t'', ht'', hadds'⟩ := ih (t := t') (by rw [hadds.pen]; exact hfits.2)
    rw [hadds.pen] at hadds'
    exact ⟨t'', by simp [performAll, ht', ht''], hadds.trans hadds'⟩

/-! ### Pixels of the text -/

/-- The batches light the set pixels of the marks, each with the scale of its mark, by maximal runs
in the order in which the marks were printed. -/
structure IsLayout (t : DebugText) (batches : List Batch) (marks : List Mark) : Prop where
  /-- The marks have their glyphs, blanks apart. -/
  placed : List.Forall₂ Placed.Shows t.placed (marks.filter (·.char ≠ ' '))
  /-- The rectangles of a glyph are its runs. -/
  runs : ∀ g ∈ t.placed, ∃ rects, glyphRects? g = some rects ∧ AreRuns g rects
  /-- A pixel is in a rectangle if it is one for a set pixel of a mark. -/
  lit : ∀ x y, (∃ b ∈ batches, ∃ r ∈ b.rects, r.Contains x y) ↔ ∃ m ∈ marks, m.Lights x y
  /-- No batch is empty. -/
  nonempty : ∀ b ∈ batches, b.rects ≠ []
  /-- Each batch has a color of its own and the rectangles of the glyphs of this color. -/
  grouped : ∃ parts, Groups t.placed batches parts

/-- **Debug text lights exactly the pixels of the font.** Take text with nothing placed, and any
calls that set its scale and color, move its cursor and print. If the cells that the calls go
through are counted by unsigned words, and the pixels that the marks light by signed ones, then the
calls succeed and so does the layout. The glyphs placed are those of the marks; the rectangles of a
glyph are its maximal runs; a pixel is in a rectangle exactly if it is one of those for a set pixel
of a mark; and the batches are not empty, have colors of their own, and list their rectangles in the
order of the marks. -/
theorem performAll_lights (calls : List Text.Call) (hplaced : t.placed = [])
    (hscale : t.scale.Positive) (hfits : t.pen.FitsAll calls)
    (hscreen : ∀ m ∈ t.pen.marksOf calls, m.OnScreen) :
    ∃ t' batches, t.performAll calls = some t' ∧ t'.layout? = some batches ∧
      IsLayout t' batches (t.pen.marksOf calls) := by
  obtain ⟨t', ht', hadds⟩ := exists_adds_performAll calls hfits
  have hshows : List.Forall₂ Placed.Shows t'.placed
      ((t.pen.marksOf calls).filter (·.char ≠ ' ')) := by
    obtain ⟨glyphs, hglyphs, hshows⟩ := hadds.placed
    rwa [hglyphs, hplaced]
  have hruns (g : Placed) (hg : g ∈ t'.placed) :
      ∃ rects, glyphRects? g = some rects ∧ rects ≠ [] ∧ AreRuns g rects := by
    obtain ⟨m, hm, hgm⟩ := exists_of_forall₂ hshows.flip hg
    obtain ⟨hm, hblank⟩ := List.mem_filter.1 hm
    exact hgm.exists_areRuns (of_decide_eq_true hblank) (Pen.positive_of_mem_marksOf hscale hm)
      (hscreen m hm)
  have hrects (g : Placed) (hg : g ∈ t'.placed) : (glyphRects? g).isSome := by
    obtain ⟨rects, hrects, -⟩ := hruns g hg
    exact Option.isSome_iff_exists.2 ⟨rects, hrects⟩
  obtain ⟨batches, parts, hbatches, hgroups⟩ := exists_groups hrects Groups.nil
  rw [List.nil_append] at hgroups
  have hnonempty (b : Batch) (hb : b ∈ batches) : b.rects ≠ [] :=
    hgroups.rects_ne_nil (fun g hg ↦ by
      obtain ⟨rects, hrects, hne, -⟩ := hruns g hg
      rwa [rectsOf, hrects]) hb
  refine ⟨t', batches, ht', ?_, hshows, fun g hg ↦ ?_, fun x y ↦ ?_, hnonempty, parts, hgroups⟩
  · have hkept : batches.filter (fun b ↦ !b.rects.isEmpty) = batches := by
      refine List.filter_eq_self.2 fun b hb ↦ ?_
      simpa using hnonempty b hb
    simp [layout?, hbatches, hkept]
  · obtain ⟨rects, hrects, -, hareRuns⟩ := hruns g hg
    exact ⟨rects, hrects, hareRuns⟩
  · rw [hgroups.exists_mem_rects, ← exists_mem_filter_iff,
      ← exists_mem_iff_of_forall₂ hshows fun g m h ↦ h.lights_iff]
    refine exists_congr fun g ↦ and_congr_right fun hg ↦ ?_
    obtain ⟨rects, hrects, -, hareRuns⟩ := hruns g hg
    rw [rectsOf, hrects]
    exact hareRuns.contains x y

/-- Text of two scales and colors, with a break in the middle and a character without a glyph. -/
def twoColors : List Text.Call :=
  [.setScale ⟨⟨0x40000000⟩, .one⟩, .moveTo ⟨2, 3⟩, .print "A~\né", .setScale ⟨.one, .one⟩,
    .setColor ⟨.one, ⟨0⟩, ⟨0⟩, .one⟩, .print " B\r"]

theorem performAll_lights_twoColors :
    ∃ t' batches, ({} : DebugText).performAll twoColors = some t' ∧ t'.layout? = some batches ∧
      IsLayout t' batches (({} : DebugText).pen.marksOf twoColors) := by
  refine performAll_lights twoColors rfl ⟨by decide, by decide⟩ (by decide) fun m hm ↦ ?_
  have hcells : ∀ m ∈ ({} : DebugText).pen.marksOf twoColors,
      (m.pen.column + 1) * (8 * m.pen.scale.x.toNat) ≤ 0x80000000 ∧
        (m.pen.row + 1) * (8 * m.pen.scale.y.toNat) ≤ 0x80000000 := by decide
  exact .of_le (glyph_eq_bitmap m.char ▸ length_glyph _) (hcells m hm).1 (hcells m hm).2

/-! ### Lines -/

/-- The rectangles have the pixels of a line of text in a row, from a column on, and they lie in its
cells. -/
structure ShowsLine (scale : Scale) (column row : ℕ) (text : List Char) (batches : List Batch) :
    Prop where
  /-- They lie in the cells of the line. -/
  inCells : ∀ b ∈ batches, ∀ r ∈ b.rects, InCells scale column row text.length r
  /-- A pixel is in one of them if it is one for a set pixel of a character. -/
  lit : ∀ x y, (∃ b ∈ batches, ∃ r ∈ b.rects, r.Contains x y) ↔
    ∃ k c, text[k]? = some c ∧ Lights scale (column + k) row (bitmap c) x y

/-- After characters of a line the pen is as many columns on. -/
theorem after_line (hline : ∀ c ∈ before, isBreak c = false) :
    p.after before = { p with column := p.column + before.length } := by
  have hany : before.any isBreak = false := by simpa using hline
  have hfeed : '\n' ∉ before := fun hmem ↦ absurd (hline _ hmem) (by decide)
  simp [Pen.after, columnAfter, rowAfter, hany, List.count_eq_zero_of_not_mem hfeed]

/-- The marks of a line are those of its characters, one for each column. -/
theorem mem_marks_line (hline : ∀ c ∈ text, isBreak c = false) {m : Mark} :
    m ∈ p.marks text ↔
      ∃ k c, text[k]? = some c ∧ m = ⟨c, { p with column := p.column + k }⟩ := by
  have hpen {k : ℕ} {c : Char} (hk : text[k]? = some c) :
      p.after (text.take k) = { p with column := p.column + k } := by
    rw [after_line fun d hd ↦ hline d (List.mem_of_mem_take hd),
      List.length_take_of_le (List.getElem?_eq_some_iff.1 hk).1.le]
  rw [Pen.marks, List.mem_map]
  constructor
  · rintro ⟨⟨c, k⟩, hmem, rfl⟩
    have hk := List.mk_mem_zipIdx_iff_getElem?.1 (List.mem_filter.1 hmem).1
    exact ⟨k, c, hk, congrArg (Mark.mk c) (hpen hk)⟩
  · rintro ⟨k, c, hk, rfl⟩
    have hbreak : (!isBreak c) = true := by rw [hline c (List.mem_of_getElem? hk), Bool.not_false]
    exact ⟨(c, k), List.mem_filter.2 ⟨List.mk_mem_zipIdx_iff_getElem?.2 hk, hbreak⟩,
      congrArg (Mark.mk c) (hpen hk)⟩

/-- A line whose cells are on the screen is printed there. -/
theorem exists_line {line : String} (hplaced : t.placed = []) (hscale : t.scale.Positive)
    (hline : ∀ c ∈ line.toList, isBreak c = false)
    (hright : (t.cursor.column.toNat + line.length) * (8 * t.scale.x.toNat) ≤ 0x80000000)
    (hbottom : (t.cursor.row.toNat + 1) * (8 * t.scale.y.toNat) ≤ 0x80000000) :
    ∃ t' batches, t.print? line = some t' ∧ t'.layout? = some batches ∧
      ShowsLine t.scale t.cursor.column.toNat t.cursor.row.toNat line.toList batches := by
  rw [← String.length_toList] at hright
  have hsize : UInt32.size = 0x100000000 := rfl
  have hcolumns := Nat.le_mul_of_pos_right (t.cursor.column.toNat + line.toList.length)
    (Nat.mul_pos (by decide : 0 < 8) hscale.x)
  have hfits : t.pen.Fits line.toList := fun n hn ↦ by
    rw [after_line fun c hc ↦ hline c (List.mem_of_mem_take hc), List.length_take_of_le hn]
    exact ⟨by simp only [pen]; omega, t.cursor.row.toNat_lt_size⟩
  obtain ⟨t', ht', hadds⟩ := exists_adds_perform (.print line) hfits
  have hshows : List.Forall₂ Placed.Shows t'.placed
      ((t.pen.marks line.toList).filter (·.char ≠ ' ')) := by
    obtain ⟨glyphs, hglyphs, hshows⟩ := hadds.placed
    rwa [hglyphs, hplaced]
  -- Each glyph is in a cell of the line and has its runs.
  have hglyph (g : Placed) (hg : g ∈ t'.placed) : ∃ rects, glyphRects? g = some rects ∧
      AreRuns g rects ∧ ∀ r ∈ rects, InCells t.scale t.cursor.column.toNat t.cursor.row.toNat
        line.toList.length r := by
    obtain ⟨m, hm, hgm⟩ := exists_of_forall₂ hshows.flip hg
    obtain ⟨hm, hblank⟩ := List.mem_filter.1 hm
    obtain ⟨k, c, hk, rfl⟩ := (mem_marks_line hline).1 hm
    have hlt : k < line.toList.length := (List.getElem?_eq_some_iff.1 hk).1
    have hscreen : Mark.OnScreen ⟨c, { t.pen with column := t.pen.column + k }⟩ :=
      .of_le (glyph_eq_bitmap c ▸ length_glyph _)
        ((Nat.mul_le_mul_right _ (Nat.add_le_add_left hlt _)).trans hright) hbottom
    obtain ⟨rects, hrects, -, hruns⟩ :=
      hgm.exists_areRuns (of_decide_eq_true hblank) hscale hscreen
    refine ⟨rects, hrects, hruns, fun r hr ↦ ?_⟩
    have hin := hruns.inCell hr
    rw [hgm.scale, hgm.column, hgm.row] at hin
    exact hin.mono (Nat.le_add_right _ _) (Nat.add_lt_add_left hlt _)
  obtain ⟨batches, hbatches, hof⟩ := exists_layout? fun g hg ↦
    Option.isSome_iff_exists.2 ((hglyph g hg).imp fun _ h ↦ h.1)
  refine ⟨t', batches, ht', hbatches, fun b hb r hr ↦ ?_, fun x y ↦ ?_⟩
  · obtain ⟨g, hg, _, hmem, rfl⟩ := (hof (· = r)).1 ⟨b, hb, r, hr, rfl⟩
    obtain ⟨rects, hrects, -, hin⟩ := hglyph g hg
    rw [rectsOf, hrects] at hmem
    exact hin _ hmem
  · have hmarks : (∃ m ∈ t.pen.marks line.toList, m.Lights x y) ↔ ∃ k c,
        line.toList[k]? = some c ∧
          Lights t.scale (t.cursor.column.toNat + k) t.cursor.row.toNat (bitmap c) x y := by
      simp only [mem_marks_line hline]
      constructor
      · rintro ⟨_, ⟨k, c, hk, rfl⟩, hlights⟩
        exact ⟨k, c, hk, hlights⟩
      · rintro ⟨k, c, hk, hlights⟩
        exact ⟨_, ⟨k, c, hk, rfl⟩, hlights⟩
    rw [hof, ← hmarks, ← exists_mem_filter_iff,
      ← exists_mem_iff_of_forall₂ hshows fun g m h ↦ h.lights_iff]
    refine exists_congr fun g ↦ and_congr_right fun hg ↦ ?_
    obtain ⟨rects, hrects, hruns, -⟩ := hglyph g hg
    rw [rectsOf, hrects]
    exact hruns.contains x y

end DebugText

end RenderTargets
