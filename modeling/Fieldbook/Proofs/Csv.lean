import Fieldbook.Csv.Reader
import Fieldbook.Csv.Writer

/-!
# Tables, written and read

A table is read back from its file (`table?_write`), whatever characters its cells hold, but for the
blanks at their ends, which the reader takes off. A record needs at least one cell, and no mark of a byte
text may stand in front, for it would be taken off as well.

The reader is followed cell by cell. A written cell leaves it behind the cell with all its characters
(`readText_writeCell`), whether the cell is in quotes or not; a comma or a line break there ends the cell
or the record (`step_comma`, `step_lineBreak`).
-/

namespace Fieldbook

/-- The symbols of a text make up the text. -/
theorem Symbol.text?_ofText (s : String) : text? (ofText s) = some s := by
  have hbytes : ((ofText s).flatMap bytes).toByteArray = s.toByteArray := by
    rw [ofText, List.flatMap_map, ← String.utf8Encode_toList]
    rfl
  rw [text?, hbytes, String.fromUTF8?, dif_pos s.isValidUTF8]
  rfl

namespace Csv

/-! ## Cells -/

namespace Scan

variable {scan : Scan} {cell : List Char}

/-- Takes the characters of a text. -/
def readText (scan : Scan) (cs : List Char) : Scan := (cs.map Symbol.char).foldl step scan

theorem readText_cons (scan : Scan) (c : Char) (cs : List Char) :
    scan.readText (c :: cs) = (scan.step (.char c)).readText cs := rfl

/-- A text is read part by part. -/
theorem readText_append (scan : Scan) (cs ds : List Char) :
    scan.readText (cs ++ ds) = (scan.readText cs).readText ds := by
  rw [readText, List.map_append, List.foldl_append]
  rfl

/-- The reader is in front of a cell. -/
structure Fresh (scan : Scan) : Prop where
  cell : scan.cell = []
  place : scan.place = .beforeRecord ∨ scan.place = .beforeCell

theorem unquoted_char {c : Char} (h : needsQuotes c = false) :
    scan.unquoted (.char c) = scan.push .plain (.char c) := by
  rw [unquoted.eq_def]
  split
  · next heq => cases heq; cases h
  · next heq => cases heq; cases h
  · next heq => cases heq; cases h
  · rfl

theorem step_plain {c : Char} (hplace : scan.place = .plain) (h : needsQuotes c = false) :
    scan.step (.char c) = scan.push .plain (.char c) := by
  rw [step.eq_def, hplace]
  exact unquoted_char h

/-- A character that needs no quotes begins a cell without them. -/
theorem step_fresh {c : Char} (hfresh : scan.Fresh) (h : needsQuotes c = false) :
    scan.step (.char c) = scan.push .plain (.char c) := by
  have hfirst : scan.first (.char c) = scan.push .plain (.char c) := by
    rw [first.eq_def]
    split
    · next heq => cases heq; cases h
    · exact unquoted_char h
  rcases hfresh.place with hplace | hplace
  · rw [step.eq_def, hplace]
    dsimp only
    split
    · next heq => cases heq; cases h
    · next heq => cases heq; cases h
    · exact hfirst
  · rw [step.eq_def, hplace]
    exact hfirst

/-- A quote in front of a cell opens it. -/
theorem step_quote (hfresh : scan.Fresh) : scan.step (.char '"') = { scan with place := .quoted } := by
  rcases hfresh.place with hplace | hplace <;> rw [step.eq_def, hplace] <;> rfl

/-- A cell that needs no quotes is read as it stands. -/
theorem readText_plain (hplace : scan.place = .plain) {cs : List Char}
    (h : cs.any needsQuotes = false) :
    scan.readText cs = { scan with cell := (cs.map Symbol.char).reverse ++ scan.cell } := by
  induction cs generalizing scan with
  | nil => rfl
  | cons c cs ih =>
    rw [List.any_cons, Bool.or_eq_false_iff] at h
    rw [readText_cons, step_plain hplace h.1, ih rfl h.2, push, List.map_cons, List.reverse_cons,
      List.append_assoc, hplace]
    rfl

/-- In quotes every character stands for itself, two quotes for one. -/
theorem readText_doubleQuotes (hplace : scan.place = .quoted) (cs : List Char) :
    scan.readText (doubleQuotes cs) =
      { scan with cell := (cs.map Symbol.char).reverse ++ scan.cell } := by
  induction cs generalizing scan with
  | nil => rfl
  | cons c cs ih =>
    have hchar : scan.readText (if c = '"' then ['"', '"'] else [c]) =
        scan.push .quoted (.char c) := by
      split
      · next hc =>
        subst hc
        rw [readText_cons, step.eq_def, hplace]
        rfl
      · next hc =>
        rw [readText_cons, step.eq_def, hplace]
        dsimp only
        split
        · next heq => cases heq; exact absurd rfl hc
        · rfl
    have hsplit : doubleQuotes (c :: cs) = (if c = '"' then ['"', '"'] else [c]) ++ doubleQuotes cs := by
      rw [doubleQuotes]
      split <;> rfl
    rw [hsplit, readText_append, hchar, ih rfl, push, List.map_cons, List.reverse_cons,
      List.append_assoc, hplace]
    rfl

/-- The reader is behind a cell with these characters. -/
structure Behind (before : Scan) (cs : List Char) (scan : Scan) : Prop where
  cell : scan.cell = (cs.map Symbol.char).reverse
  cells : scan.cells = before.cells
  records : scan.records = before.records
  place : scan.place ≠ .quoted
  /-- An empty cell in front of a record leaves no trace. -/
  begun : scan.place = .beforeRecord → cs = [] ∧ before.place = .beforeRecord

/-- **A written cell is read with all its characters.** -/
theorem readText_writeCell (hfresh : scan.Fresh) (cell : List Char) :
    Behind scan cell (scan.readText (writeCell cell)) := by
  rw [writeCell]
  split
  · rw [quote, List.cons_append, readText_cons, step_quote hfresh, readText_append,
      readText_doubleQuotes rfl]
    refine ⟨?_, rfl, rfl, nofun, nofun⟩
    rw [hfresh.cell, List.append_nil]
    rfl
  · next hplain =>
    cases cell with
    | nil =>
      refine ⟨hfresh.cell, rfl, rfl, ?_, fun hplace => ⟨rfl, hplace⟩⟩
      rcases hfresh.place with hplace | hplace <;> rw [readText, List.map_nil, List.foldl_nil, hplace] <;>
        nofun
    | cons c cs =>
      rw [Bool.not_eq_true, List.any_cons, Bool.or_eq_false_iff] at hplain
      rw [readText_cons, step_fresh hfresh hplain.1, readText_plain rfl hplain.2]
      exact ⟨by simp [push, hfresh.cell], rfl, rfl, nofun, nofun⟩

theorem step_comma (hplace : scan.place ≠ .quoted) : scan.step (.char ',') = scan.endCell := by
  rw [step.eq_def]
  split
  · rfl
  · rfl
  · rfl
  · next heq => exact absurd heq hplace
  · rfl

theorem step_lineBreak (hplace : scan.place ≠ .quoted) (hbegun : scan.place ≠ .beforeRecord) :
    scan.step (.char '\n') = scan.endRecord := by
  rw [step.eq_def]
  split
  · next heq => exact absurd heq hbegun
  · rfl
  · rfl
  · next heq => exact absurd heq hplace
  · rfl

/-! ## Records -/

/-- Cells with commas between them and a line break behind are a record, unless they are a single empty
one in front of a record. -/
theorem readText_cells (hfresh : scan.Fresh) (cell : List Char) (cells : List (List Char))
    (hbegun : scan.place = .beforeRecord → cell :: cells ≠ [[]]) :
    scan.readText ([','].intercalate ((cell :: cells).map writeCell) ++ ['\n']) =
      { records := (scan.cells.reverse ++ (cell :: cells).map (List.map Symbol.char)) ::
          scan.records } := by
  have hbehind := readText_writeCell hfresh cell
  induction cells generalizing scan cell with
  | nil =>
    have hplace : (scan.readText (writeCell cell)).place ≠ .beforeRecord := fun hplace => by
      obtain ⟨rfl, hbefore⟩ := hbehind.begun hplace
      exact hbegun hbefore rfl
    have hone : [','].intercalate ([cell].map writeCell) = writeCell cell := by simp
    rw [hone, readText_append, readText_cons, step_lineBreak hbehind.place hplace, endRecord,
      hbehind.cell, hbehind.cells, hbehind.records]
    simp [readText]
  | cons next rest ih =>
    have hmore : [','].intercalate ((cell :: next :: rest).map writeCell) =
        writeCell cell ++ ',' :: [','].intercalate ((next :: rest).map writeCell) := by
      simp [List.intercalate]
    have hended : (scan.readText (writeCell cell)).endCell.Fresh := ⟨rfl, .inr rfl⟩
    rw [hmore, List.append_assoc, readText_append, List.cons_append, readText_cons,
      step_comma hbehind.place, ih hended next nofun (readText_writeCell hended next)]
    simp [endCell, hbehind.cell, hbehind.cells, hbehind.records]

/-- A record with a cell is read as it was written, with its cells untrimmed. -/
theorem readText_writeRecord {record : List String} (h : record ≠ []) (records : List (List (List Symbol))) :
    readText { records } (writeRecord record) = { records := record.map Symbol.ofText :: records } := by
  have hofText : (List.map Symbol.char) ∘ String.toList = Symbol.ofText := rfl
  rw [writeRecord.eq_def]
  split
  · rfl
  · next hrecord =>
    obtain ⟨cell, cells, rfl⟩ := List.exists_cons_of_ne_nil h
    have hmap : (cell :: cells).map (fun cell => writeCell cell.toList) =
        (cell.toList :: cells.map String.toList).map writeCell := by simp
    rw [hmap, readText_cells ⟨rfl, .inl rfl⟩ cell.toList (cells.map String.toList)]
    · simp [Symbol.ofText]
    · intro _ heq
      obtain ⟨hcell, hcells⟩ := List.cons.inj heq
      rw [List.map_eq_nil_iff] at hcells
      exact hrecord (by rw [hcells, String.toList_eq_nil_iff.1 hcell])

end Scan

/-! ## Tables -/

/-- **The records that were written are the records that are read**, provided that the text does not begin
with a byte order mark, which would be skipped. -/
theorem rawRecords_write {records : List (List String)} (h : ∀ record ∈ records, record ≠ [])
    (hmark : (write records).toList.head? ≠ some '\uFEFF') :
    rawRecords (Symbol.ofText (write records)) = records.map (List.map Symbol.ofText) := by
  have hread : ∀ done : List (List (List Symbol)),
      Scan.readText { records := done } (records.flatMap writeRecord) =
        { records := (records.map (List.map Symbol.ofText)).reverse ++ done } := by
    clear hmark
    induction records with
    | nil => exact fun _ => rfl
    | cons record records ih =>
      intro done
      rw [List.flatMap_cons, Scan.readText_append, Scan.readText_writeRecord (h record List.mem_cons_self),
        ih fun r hr => h r (List.mem_cons_of_mem record hr)]
      simp
  have hwithout : Symbol.withoutMark (Symbol.ofText (write records)) = Symbol.ofText (write records) := by
    rw [Symbol.withoutMark.eq_def]
    split
    · next heq =>
      rw [Symbol.ofText, List.map_eq_cons_iff] at heq
      obtain ⟨c, cs, hcs, hc, -⟩ := heq
      cases hc
      exact absurd (by rw [hcs]; rfl) hmark
    · rfl
  have htext : Symbol.ofText (write records) = (records.flatMap writeRecord).map Symbol.char := by
    rw [Symbol.ofText, write, String.toList_ofList]
  rw [rawRecords, hwithout, htext]
  have hall := hread []
  rw [Scan.readText] at hall
  rw [hall]
  simp [Scan.finish]

theorem texts?_ofText (record : List String) :
    texts? (record.map Symbol.ofText) = some (record.map Text.trim) := by
  rw [texts?]
  induction record with
  | nil => rfl
  | cons cell cells ih =>
    rw [List.map_cons, List.mapM_cons, ih, Symbol.text?_ofText]
    rfl

section Table

variable {first : List String} {records : List (List String)}

theorem headers?_write (h : ∀ record ∈ first :: records, record ≠ [])
    (hmark : (write (first :: records)).toList.head? ≠ some '\uFEFF') :
    headers? (Symbol.ofText (write (first :: records))) = some (first.map Text.trim) := by
  rw [headers?, rawRecords_write h hmark]
  exact texts?_ofText first

/-- **A table is read back from its file** but for the blanks at the ends of its cells. -/
theorem table?_write (h : ∀ record ∈ first :: records, record ≠ [])
    (hmark : (write (first :: records)).toList.head? ≠ some '\uFEFF') :
    table? (Symbol.ofText (write (first :: records))) =
      some ⟨first.map Text.trim, records.map (List.map Text.trim)⟩ := by
  have hrecords : (records.map (List.map Symbol.ofText)).mapM texts? =
      some (records.map (List.map Text.trim)) := by
    clear h hmark
    induction records with
    | nil => rfl
    | cons record records ih =>
      rw [List.map_cons, List.mapM_cons, texts?_ofText, ih]
      rfl
  rw [table?, rawRecords_write h hmark]
  simp only [List.map_cons, texts?_ofText, hrecords]
  rfl

end Table

end Csv

end Fieldbook
