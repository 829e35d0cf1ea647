/-!
# Aligning columns of laid-out source

The printer marks up its output for a column aligner. A tab or vertical tab
ends a cell, a newline or form feed ends a line, and text between two
`escapeByte`s is one piece of cell text whatever it holds. A run of
consecutive lines that all have a cell in some column is a block; the
column's width in the block is its widest cell plus one blank, and every cell
is padded to it. A column whose cells are all empty and vertical-tab ended is
dropped. Leading empty cells are padded with tabs, the others with blanks.

A form feed, and a line of a single cell, end every block open before them.

The aligned text is then cleaned: escape bytes are removed and blanks and
tabs at line ends are dropped.

## Main definitions

* `Aligner`: the aligner's cells and lines so far, and its output.
* `align`: aligns a whole text.
* `trim`: removes escapes and line-end blanks.
-/

namespace UpnpBind.GoSource

/-- The byte that brackets text to pass through as it is. -/
def escapeByte : UInt8 := 0xff

/-- The characters in a range of bytes: every byte that does not continue a
UTF-8 sequence starts one. -/
def runeCount (b : ByteArray) (start stop : Nat) : Nat :=
  (List.range' start (stop - start)).foldl
    (fun n i => if (b.get! i) &&& 0xC0 == 0x80 then n else n + 1) 0

/-- A cell: the bytes of its text, its width in characters, and whether a tab ended it. -/
structure Cell where
  size : Nat := 0
  width : Nat := 0
  htab : Bool := false
deriving Inhabited

/-- The state of the aligner. -/
structure Aligner where
  /-- The text of the cells so far. -/
  buf : ByteArray := ByteArray.empty
  /-- Where the current cell's uncounted text starts. -/
  pos : Nat := 0
  cell : Cell := {}
  inEscape : Bool := false
  lines : Array (Array Cell) := #[#[]]
  /-- The widths of the columns to the left, while formatting. -/
  widths : Array Nat := #[]
  out : ByteArray := ByteArray.empty
deriving Inhabited

namespace Aligner

/-- The width of a tab stop. -/
def tabWidth : Nat := 8

/-- Adds bytes of the input to the current cell. -/
def addText (a : Aligner) (src : ByteArray) (start stop : Nat) : Aligner :=
  { a with buf := a.buf ++ src.extract start stop, cell := { a.cell with size := a.cell.size + (stop - start) } }

/-- Counts the current cell's new text into its width. -/
def updateWidth (a : Aligner) : Aligner :=
  { a with cell := { a.cell with width := a.cell.width + runeCount a.buf a.pos a.buf.size }, pos := a.buf.size }

/-- Ends the current cell; also the number of cells of its line. -/
def terminateCell (a : Aligner) (htab : Bool) : Aligner × Nat :=
  let line := (a.lines.back?.getD #[]).push { a.cell with htab }
  ({ a with lines := a.lines.pop.push line, cell := {} }, line.size)

/-- Ends an escaped piece: the escape bytes take no width. -/
def endEscape (a : Aligner) : Aligner :=
  let a := a.updateWidth
  { a with cell := { a.cell with width := a.cell.width - 2 }, pos := a.buf.size, inEscape := false }

/-- Pads a cell of width `textw` to a column of width `cellw`. -/
def writePadding (a : Aligner) (textw cellw : Nat) (useTabs : Bool) : Aligner :=
  if useTabs then
    let cellw := (cellw + tabWidth - 1) / tabWidth * tabWidth
    let n := cellw - textw
    { a with out := (List.replicate ((n + tabWidth - 1) / tabWidth) (9 : UInt8)).foldl ByteArray.push a.out }
  else
    { a with out := (List.replicate (cellw - textw) (32 : UInt8)).foldl ByteArray.push a.out }

/-- Writes one line's cells, padded to the known column widths. -/
def writeLine (a : Aligner) (pos0 : Nat) (line : Array Cell) : Aligner × Nat :=
  let (a, pos, _) := line.toList.zipIdx.foldl (fun (a, pos, useTabs) (c, j) =>
    if c.size == 0 then
      let a := if j < a.widths.size then a.writePadding c.width (a.widths.getD j 0) useTabs else a
      (a, pos, useTabs)
    else
      let a := { a with out := a.out ++ a.buf.extract pos (pos + c.size) }
      let a := if j < a.widths.size then a.writePadding c.width (a.widths.getD j 0) false else a
      (a, pos + c.size, false)) (a, pos0, true)
  (a, pos)

/-- Writes the lines from `line0` to `line1`. -/
def writeLines (a : Aligner) (pos0 line0 line1 : Nat) : Aligner × Nat :=
  (List.range' line0 (line1 - line0)).foldl (fun (a, pos) i =>
    let (a, pos) := a.writeLine pos (a.lines.getD i #[])
    if i + 1 == a.lines.size then
      ({ a with out := a.out ++ a.buf.extract pos (pos + a.cell.size) }, pos + a.cell.size)
    else ({ a with out := a.out.push 10 }, pos)) (a, pos0)

/-- The width of a column in the block of lines starting at `this`, whether
it is all empty, and the line the block stops before. -/
def blockWidth (a : Aligner) (column line1 : Nat) : Nat → Nat → Bool → Nat → Nat × Bool × Nat
  | 0, width, discardable, this => (width, discardable, this)
  | fuel + 1, width, discardable, this =>
    if this < line1 then
      let line := a.lines.getD this #[]
      if column ≥ line.size - 1 then (width, discardable, this)
      else
        let c := line.getD column {}
        let width := max width (c.width + 1)
        blockWidth a column line1 fuel width (discardable && !(c.width > 0 || c.htab)) (this + 1)
    else (width, discardable, this)

mutual

/-- Formats the lines from `line0` to `line1`, for the column after those
whose widths are known. -/
def format : Nat → Aligner → Nat → Nat → Nat → Aligner × Nat
  | 0, a, pos, _, _ => (a, pos)
  | fuel + 1, a, pos, line0, line1 => formatFrom fuel a pos line0 line0 line1

/-- Formats from line `this` on, the lines from `line0` not yet written. -/
def formatFrom : Nat → Aligner → Nat → Nat → Nat → Nat → Aligner × Nat
  | 0, a, pos, _, _, _ => (a, pos)
  | fuel + 1, a, pos, line0, this, line1 =>
    if this < line1 then
      let column := a.widths.size
      let line := a.lines.getD this #[]
      if column ≥ line.size - 1 then formatFrom fuel a pos line0 (this + 1) line1
      else
        let (a, pos) := a.writeLines pos line0 this
        let (width, discardable, stop) := a.blockWidth column line1 (line1 - this) 0 true this
        let width := if discardable then 0 else width
        let a := { a with widths := a.widths.push width }
        let (a, pos) := format fuel a pos this stop
        let a := { a with widths := a.widths.pop }
        formatFrom fuel a pos stop (stop + 1) line1
    else a.writeLines pos line0 line1

end

/-- Formats and writes everything so far, then starts afresh. -/
def flush (a : Aligner) : Aligner :=
  let a := if a.cell.size > 0 then
      let a := if a.inEscape then a.endEscape else a
      (a.terminateCell false).1
    else a
  let cells := a.lines.foldl (fun m l => max m l.size) 0
  let fuel := (a.lines.size + 2) * (cells + 2) * 2
  let (a, _) := format fuel a 0 0 a.lines.size
  { out := a.out }

/-- Feeds the input from byte `i` on; `n` is where its unadded text starts. -/
def feed (input : ByteArray) (a : Aligner) (i n : Nat) : Aligner :=
  if h : i < input.size then
    let ch := input[i]
    if !a.inEscape then
      if ch == 9 || ch == 11 || ch == 10 || ch == 12 then
        let a := (a.addText input n i).updateWidth
        let (a, ncells) := a.terminateCell (ch == 9)
        let a := if ch == 10 || ch == 12 then
            let a := { a with lines := a.lines.push #[] }
            if ch == 12 || ncells == 1 then a.flush else a
          else a
        feed input a (i + 1) (i + 1)
      else if ch == escapeByte then
        let a := (a.addText input n i).updateWidth
        feed input { a with inEscape := true } (i + 1) i
      else feed input a (i + 1) n
    else if ch == escapeByte then
      let a := (a.addText input n (i + 1)).endEscape
      feed input a (i + 1) (i + 1)
    else feed input a (i + 1) n
  else a.addText input n input.size
termination_by input.size - i

end Aligner

/-- Aligns the cells of a marked-up text. -/
def align (input : ByteArray) : ByteArray :=
  (Aligner.feed input {} 0 0).flush.out

/-- Where the cleaning of a text is. -/
inductive TrimState where
  | space
  | escaped
  | text
deriving DecidableEq

/-- Removes escape bytes and the blanks and tabs that end lines; turns
vertical tabs into tabs and form feeds into newlines. -/
def trim (input : ByteArray) : ByteArray :=
  let (out, _, _) := input.foldl (fun (out, pending, st) b =>
    match st with
    | .space =>
      let c := if b == 11 then 9 else b
      if c == 9 || c == 32 then (out, pending.push c, TrimState.space)
      else if c == 10 || c == 12 then (out.push 10, ByteArray.empty, .space)
      else if c == escapeByte then (out ++ pending, ByteArray.empty, .escaped)
      else ((out ++ pending).push c, ByteArray.empty, .text)
    | .escaped =>
      if b == escapeByte then (out, pending, .space) else (out.push b, pending, .escaped)
    | .text =>
      let c := if b == 11 then 9 else b
      if c == 9 || c == 32 then (out, ByteArray.empty.push c, .space)
      else if c == 10 || c == 12 then (out.push 10, ByteArray.empty, .space)
      else if c == escapeByte then (out, pending, .escaped)
      else (out.push c, pending, .text)) (ByteArray.empty, ByteArray.empty, TrimState.space)
  out

end UpnpBind.GoSource
