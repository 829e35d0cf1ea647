import UpnpBind.GoSource.Token
import UpnpBind.Text.Letter
import UpnpBind.Text.Printable
import UpnpBind.Text.Quoted
import UpnpBind.Text.Utf8

/-!
# Scanning Go source

The scanner reads the source as UTF-8 bytes and yields one token at a time,
with its byte offset and literal text, comments included. After an
identifier, a basic literal, one of the keywords `break`, `continue`,
`fallthrough` and `return`, the operators `++` and `--`, or a closing bracket,
a newline or the end of the file yields a semicolon whose text is a newline.
A line comment keeps that semicolon pending: it comes after the comment; a
general comment spanning lines yields it at the comment's first newline.

Malformed input is reported and scanning goes on: an unterminated literal or
comment, a bad escape, a misplaced digit separator, a number without digits,
an illegal or invalid character. Each report carries the byte offset it is
about.
-/

namespace UpnpBind.GoSource

/-- The byte at an offset, or 0 past the end. -/
def byteAt (src : ByteArray) (i : Nat) : Nat := if h : i < src.size then src[i].toNat else 0

/-- The text of a byte range. -/
def sliceText (src : ByteArray) (lo hi : Nat) : String :=
  (String.fromUTF8? (src.extract lo hi)).getD ""

/-- The scanner's state: the current character (-1 at the end) and where it is. -/
structure Scanner where
  src : ByteArray
  ch : Int := -1
  offset : Nat := 0
  rdOffset : Nat := 0
  insertSemi : Bool := false
  /-- The offset of a newline inside a general comment, where a semicolon is pending. -/
  nlPos : Option Nat := none
  /-- The reports so far, each with the offset it is about. -/
  errors : Array (Nat × String) := #[]

namespace Scanner

/-- Records a report. -/
def report (s : Scanner) (off : Nat) (msg : String) : Scanner := { s with errors := s.errors.push (off, msg) }

/-- Moves to the next character, reporting NUL, bad encodings and misplaced byte order marks. -/
def next (s : Scanner) : Scanner :=
  if s.rdOffset < s.src.size then
    let off := s.rdOffset
    let (c, w) := Text.runeAt s.src off
    let r := c.toNat
    let s := { s with offset := off, rdOffset := off + w, ch := r }
    if r == 0 then s.report off "illegal character NUL"
    else if r == 0xFFFD && w == 1 && byteAt s.src off ≥ 0x80 then s.report off "illegal UTF-8 encoding"
    else if r == 0xFEFF && off > 0 then s.report off "illegal byte order mark"
    else s
  else { s with offset := s.src.size, ch := -1 }

/-- The byte after the current character. -/
def peek (s : Scanner) : Nat := byteAt s.src s.rdOffset

/-- A scanner at the start of a source; a leading byte order mark is skipped. -/
def init (text : String) : Scanner :=
  let s := ({ src := text.toUTF8, ch := 32 } : Scanner).next
  if s.ch == 0xFEFF then s.next else s

end Scanner

/-- Whether a character is an ASCII letter or an underscore, or any letter. -/
def isLetterCh (ch : Int) : Bool :=
  (97 ≤ ch && ch ≤ 122) || (65 ≤ ch && ch ≤ 90) || ch == 95 ||
    (ch ≥ 128 && Text.isLetter (Char.ofNat ch.toNat))

/-- Whether a character is a decimal digit of any script. -/
def isDigitCh (ch : Int) : Bool :=
  (48 ≤ ch && ch ≤ 57) || (ch ≥ 128 && Text.isDecimalDigit (Char.ofNat ch.toNat))

/-- Whether a character is an ASCII decimal digit. -/
def isDecimal (ch : Int) : Bool := 48 ≤ ch && ch ≤ 57

/-- Whether a character is an ASCII hexadecimal digit. -/
def isHex (ch : Int) : Bool := isDecimal ch || (97 ≤ ch && ch ≤ 102) || (65 ≤ ch && ch ≤ 70)

/-- A letter in lower case, for prefixes and exponents. -/
def lowerCh (ch : Int) : Int := if 65 ≤ ch && ch ≤ 90 then ch + 32 else ch

/-- The value of a digit of base up to 16; 16 for other characters. -/
def digitVal (ch : Int) : Nat :=
  if isDecimal ch then (ch - 48).toNat
  else if 97 ≤ ch && ch ≤ 102 then (ch - 97 + 10).toNat
  else if 65 ≤ ch && ch ≤ 70 then (ch - 65 + 10).toNat
  else 16

/-- A character as `U+XXXX`, followed by the quoted character when it is printable. -/
def describeChar (ch : Nat) : String :=
  let hex := String.ofList (Text.hexDigits 4 ch)
  let c := Char.ofNat ch
  "U+" ++ String.ofList (hex.toList.map Char.toUpper) ++
    (if Text.isPrintable c then " '" ++ String.singleton c ++ "'" else "")

namespace Scanner

/-- Skips characters while a test holds. -/
def skipWhile (p : Int → Bool) : Nat → Scanner → Scanner
  | 0, s => s
  | fuel + 1, s => if p s.ch then skipWhile p fuel s.next else s

/-- The fuel for a loop over the rest of the source. -/
def fuel (s : Scanner) : Nat := s.src.size - s.offset + 2

/-- Skips blanks; newlines too unless a semicolon is due. -/
def skipWhitespace (s : Scanner) : Scanner :=
  s.skipWhile (fun ch => ch == 32 || ch == 9 || (ch == 10 && !s.insertSemi) || ch == 13) s.fuel

/-- Digits of a base (or separators), recording the offset of the first digit
too large for the base; bit 0 of the result says a digit was seen, bit 1 a separator. -/
def digits (base : Nat) : Nat → Scanner → Nat → Option Nat → Scanner × Nat × Option Nat
  | 0, s, ds, inv => (s, ds, inv)
  | fuel + 1, s, ds, inv =>
    if base ≤ 10 then
      if isDecimal s.ch || s.ch == 95 then
        let d := if s.ch == 95 then 2 else 1
        let inv := if s.ch != 95 && s.ch ≥ 48 + base && inv.isNone then some s.offset else inv
        digits base fuel s.next (ds ||| d) inv
      else (s, ds, inv)
    else
      if isHex s.ch || s.ch == 95 then
        digits base fuel s.next (ds ||| (if s.ch == 95 then 2 else 1)) inv
      else (s, ds, inv)

/-- The index of the first misplaced digit separator of a number literal. -/
def invalidSep (x : List Char) : Option Nat :=
  let (x1, start, d0) := match x with
    | '0' :: c :: _ =>
      let l := Char.toLower c
      if l == 'x' || l == 'o' || l == 'b' then (l, 2, '0') else (' ', 0, '.')
    | _ => (' ', 0, '.')
  let rec go : List Char → Nat → Char → Option Nat
    | [], i, d => if d == '_' then some (i - 1) else none
    | c :: cs, i, p =>
      if c == '_' then (if p != '0' then some i else go cs (i + 1) '_')
      else if c.isDigit || (x1 == 'x' && (c.isDigit || ('a' ≤ Char.toLower c && Char.toLower c ≤ 'f'))) then
        go cs (i + 1) '0'
      else if p == '_' then some (i - 1)
      else go cs (i + 1) '.'
  go (x.drop start) start d0

/-- The name of a number literal's kind by its prefix. -/
def litName (pfx : Char) : String :=
  if pfx == 'x' then "hexadecimal literal"
  else if pfx == 'o' || pfx == '0' then "octal literal"
  else if pfx == 'b' then "binary literal"
  else "decimal literal"

/-- A number literal: its kind and text. -/
def scanNumber (s : Scanner) : Scanner × Tok × String :=
  let offs := s.offset
  let f := s.fuel
  -- integer part
  let (s, tok, base, pfx, ds, inv) :=
    if s.ch != 46 then
      let (s, base, pfx, ds) :=
        if s.ch == 48 then
          let s := s.next
          match lowerCh s.ch with
          | 120 => (s.next, 16, 'x', 0)
          | 111 => (s.next, 8, 'o', 0)
          | 98 => (s.next, 2, 'b', 0)
          | _ => (s, 8, '0', 1)
        else (s, 10, ' ', 0)
      let (s, ds', inv) := digits base f s 0 none
      (s, Tok.int, base, pfx, ds ||| ds', inv)
    else (s, Tok.illegal, 10, ' ', 0, none)
  -- fractional part
  let (s, tok, ds, inv) :=
    if s.ch == 46 then
      let s := if pfx == 'o' || pfx == 'b' then s.report s.offset ("invalid radix point in " ++ litName pfx) else s
      let (s, ds', inv) := digits base f s.next 0 inv
      (s, Tok.float, ds ||| ds', inv)
    else (s, tok, ds, inv)
  let s := if ds &&& 1 == 0 then s.report s.offset (litName pfx ++ " has no digits") else s
  -- exponent
  let e := lowerCh s.ch
  let (s, tok, ds) :=
    if e == 101 || e == 112 then
      let s :=
        if e == 101 && pfx != ' ' && pfx != '0' then
          s.report s.offset ("'" ++ String.singleton (Char.ofNat s.ch.toNat) ++ "' exponent requires decimal mantissa")
        else if e == 112 && pfx != 'x' then
          s.report s.offset ("'" ++ String.singleton (Char.ofNat s.ch.toNat) ++ "' exponent requires hexadecimal mantissa")
        else s
      let s := s.next
      let s := if s.ch == 43 || s.ch == 45 then s.next else s
      let (s, eds, _) := digits 10 f s 0 none
      let s := if eds &&& 1 == 0 then s.report s.offset "exponent has no digits" else s
      (s, Tok.float, ds ||| eds)
    else if pfx == 'x' && tok == .float then
      (s.report s.offset "hexadecimal mantissa requires a 'p' exponent", tok, ds)
    else (s, tok, ds)
  -- imaginary suffix
  let (s, tok) := if s.ch == 105 then (s.next, Tok.imag) else (s, tok)
  let lit := sliceText s.src offs s.offset
  let s := match tok, inv with
    | .int, some i =>
      s.report i ("invalid digit '" ++ String.singleton (Char.ofNat (byteAt s.src i)) ++ "' in " ++ litName pfx)
    | _, _ => s
  let s := if ds &&& 2 != 0 then
      match invalidSep lit.toList with
      | some i => s.report (offs + i) "'_' must separate successive digits"
      | none => s
    else s
  (s, tok, lit)

/-- Reads an escape after its backslash; false if it is malformed. -/
def scanEscape (quote : Int) (s : Scanner) : Scanner × Bool :=
  let offs := s.offset
  let simple := [97, 98, 102, 110, 114, 116, 118, 92]
  if simple.contains s.ch.toNat && s.ch ≥ 0 || s.ch == quote then (s.next, true)
  else
    let spec : Option (Nat × Nat × Nat × Scanner) :=
      if 48 ≤ s.ch && s.ch ≤ 55 then some (3, 8, 255, s)
      else if s.ch == 120 then some (2, 16, 255, s.next)
      else if s.ch == 117 then some (4, 16, 0x10FFFF, s.next)
      else if s.ch == 85 then some (8, 16, 0x10FFFF, s.next)
      else none
    match spec with
    | none =>
      (s.report offs (if s.ch < 0 then "escape sequence not terminated" else "unknown escape sequence"), false)
    | some (n, base, max, s) =>
      let rec go : Nat → Scanner → Nat → Scanner × Option Nat
        | 0, s, x => (s, some x)
        | k + 1, s, x =>
          let d := digitVal s.ch
          if d ≥ base then
            let msg := if s.ch < 0 then "escape sequence not terminated"
              else "illegal character " ++ describeChar s.ch.toNat ++ " in escape sequence"
            (s.report s.offset msg, none)
          else go k s.next (x * base + d)
      match go n s 0 with
      | (s, none) => (s, false)
      | (s, some x) =>
        if x > max || (0xD800 ≤ x && x < 0xE000) then
          (s.report offs "escape sequence is invalid Unicode code point", false)
        else (s, true)

/-- An interpreted string literal, after its opening quote. -/
def scanString (s : Scanner) : Scanner × String :=
  let offs := s.offset - 1
  let rec go : Nat → Scanner → Scanner
    | 0, s => s
    | fuel + 1, s =>
      let ch := s.ch
      if ch == 10 || ch < 0 then s.report offs "string literal not terminated"
      else
        let s := s.next
        if ch == 34 then s
        else if ch == 92 then go fuel (scanEscape 34 s).1
        else go fuel s
  let s := go s.fuel s
  (s, sliceText s.src offs s.offset)

/-- A raw string literal, after its opening backquote; carriage returns are dropped. -/
def scanRawString (s : Scanner) : Scanner × String :=
  let offs := s.offset - 1
  let rec go : Nat → Scanner → Scanner
    | 0, s => s
    | fuel + 1, s =>
      let ch := s.ch
      if ch < 0 then s.report offs "raw string literal not terminated"
      else
        let s := s.next
        if ch == 96 then s else go fuel s
  let s := go s.fuel s
  (s, String.ofList ((sliceText s.src offs s.offset).toList.filter (· != '\r')))

/-- A rune literal, after its opening quote. -/
def scanRune (s : Scanner) : Scanner × String :=
  let offs := s.offset - 1
  let rec go : Nat → Scanner → Bool → Nat → Scanner × Bool × Nat
    | 0, s, v, n => (s, v, n)
    | fuel + 1, s, valid, n =>
      let ch := s.ch
      if ch == 10 || ch < 0 then
        ((if valid then s.report offs "rune literal not terminated" else s), false, n)
      else
        let s := s.next
        if ch == 39 then (s, valid, n)
        else if ch == 92 then
          let (s, ok) := scanEscape 39 s
          go fuel s (valid && ok) (n + 1)
        else go fuel s valid (n + 1)
  let (s, valid, n) := go s.fuel s true 0
  let s := if valid && n != 1 then s.report offs "illegal rune literal" else s
  (s, sliceText s.src offs s.offset)

/-- A comment after its first slash: its text and, for a general comment, the
offset of its first newline. -/
def scanComment (s : Scanner) : Scanner × String × Option Nat :=
  let offs := s.offset - 1
  if s.ch == 47 then
    let s := skipWhile (fun ch => ch != 10 && ch ≥ 0) s.fuel s.next
    (s, String.ofList ((sliceText s.src offs s.offset).toList.filter (· != '\r')), none)
  else
    let rec go : Nat → Scanner → Option Nat → Scanner × Option Nat × Bool
      | 0, s, nl => (s, nl, false)
      | fuel + 1, s, nl =>
        if s.ch < 0 then (s, nl, false)
        else
          let ch := s.ch
          let nl := if ch == 10 && nl.isNone then some s.offset else nl
          let s := s.next
          if ch == 42 && s.ch == 47 then (s.next, nl, true) else go fuel s nl
    let (s, nl, closed) := go s.fuel s.next none
    let s := if closed then s else s.report offs "comment not terminated"
    (s, String.ofList ((sliceText s.src offs s.offset).toList.filter (· != '\r')), nl)

/-- One of two tokens: the second when the next character is `=`. -/
def switch2 (s : Scanner) (a b : String) : Scanner × Tok :=
  if s.ch == 61 then (s.next, .op b) else (s, .op a)

/-- One of three tokens: with `=` or with a repeated character `c`. -/
def switch3 (s : Scanner) (a b : String) (c : Int) (d : String) : Scanner × Tok :=
  if s.ch == 61 then (s.next, .op b) else if s.ch == c then (s.next, .op d) else (s, .op a)

/-- One of four tokens, for shifts and comparisons. -/
def switch4 (s : Scanner) (a b : String) (c : Int) (d e : String) : Scanner × Tok :=
  if s.ch == 61 then (s.next, .op b)
  else if s.ch == c then
    let s := s.next
    if s.ch == 61 then (s.next, .op e) else (s, .op d)
  else (s, .op a)

/-- The next token: its offset, kind and literal text. -/
def scan (s : Scanner) : Scanner × Nat × Tok × String :=
  match s.nlPos with
  | some p => ({ s with nlPos := none }, p, .op ";", "\n")
  | none =>
  let s := s.skipWhitespace
  let pos := s.offset
  let ch := s.ch
  let finish (s : Scanner) (semi : Bool) (tok : Tok) (lit : String) : Scanner × Nat × Tok × String :=
    ({ s with insertSemi := semi }, pos, tok, lit)
  if isLetterCh ch then
    let s' := skipWhile (fun c => isLetterCh c || isDigitCh c) s.fuel s
    let lit := sliceText s.src pos s'.offset
    let tok := if lit.utf8ByteSize > 1 then Tok.lookup lit else .ident
    let semi := match tok with
      | .ident | .kw "break" | .kw "continue" | .kw "fallthrough" | .kw "return" => true
      | _ => false
    finish s' semi tok lit
  else if isDecimal ch || (ch == 46 && isDecimal s.peek) then
    let (s', tok, lit) := s.scanNumber
    finish s' true tok lit
  else
    let s1 := s.next
    if ch < 0 then
      if s.insertSemi then ({ s1 with insertSemi := false }, pos, .op ";", "\n")
      else finish s1 false .eof ""
    else if ch == 10 then ({ s1 with insertSemi := false }, pos, .op ";", "\n")
    else if ch == 34 then let (s', lit) := s1.scanString; finish s' true .string lit
    else if ch == 39 then let (s', lit) := s1.scanRune; finish s' true .char lit
    else if ch == 96 then let (s', lit) := s1.scanRawString; finish s' true .string lit
    else if ch == 58 then let (s', t) := s1.switch2 "\x3a" "\x3a="; finish s' false t ""
    else if ch == 46 then
      if s1.ch == 46 && s1.peek == 46 then finish s1.next.next false .ellipsis ""
      else finish s1 false .period ""
    else if ch == 44 then finish s1 false .comma ""
    else if ch == 59 then finish s1 false .semicolon ";"
    else if ch == 40 then finish s1 false .lparen ""
    else if ch == 41 then finish s1 true .rparen ""
    else if ch == 91 then finish s1 false .lbrack ""
    else if ch == 93 then finish s1 true .rbrack ""
    else if ch == 123 then finish s1 false .lbrace ""
    else if ch == 125 then finish s1 true .rbrace ""
    else if ch == 43 then let (s', t) := s1.switch3 "+" "+=" 43 "++"; finish s' (t == .op "++") t ""
    else if ch == 45 then let (s', t) := s1.switch3 "-" "-=" 45 "--"; finish s' (t == .op "--") t ""
    else if ch == 42 then let (s', t) := s1.switch2 "*" "*="; finish s' false t ""
    else if ch == 47 then
      if s1.ch == 47 || s1.ch == 42 then
        let (s', lit, nl) := s1.scanComment
        match nl with
        | some o =>
          if s.insertSemi then ({ s' with nlPos := some o, insertSemi := false }, pos, .comment, lit)
          else finish s' s.insertSemi .comment lit
        | none => finish s' s.insertSemi .comment lit
      else let (s', t) := s1.switch2 "/" "/="; finish s' false t ""
    else if ch == 37 then let (s', t) := s1.switch2 "%" "%="; finish s' false t ""
    else if ch == 94 then let (s', t) := s1.switch2 "^" "^="; finish s' false t ""
    else if ch == 60 then
      if s1.ch == 45 then finish s1.next false .arrow ""
      else let (s', t) := s1.switch4 "<" "<=" 60 "<<" "<<="; finish s' false t ""
    else if ch == 62 then let (s', t) := s1.switch4 ">" ">=" 62 ">>" ">>="; finish s' false t ""
    else if ch == 61 then let (s', t) := s1.switch2 "=" "=="; finish s' false t ""
    else if ch == 33 then let (s', t) := s1.switch2 "!" "!="; finish s' false t ""
    else if ch == 38 then
      if s1.ch == 94 then let (s', t) := s1.next.switch2 "&^" "&^="; finish s' false t ""
      else let (s', t) := s1.switch3 "&" "&=" 38 "&&"; finish s' false t ""
    else if ch == 124 then let (s', t) := s1.switch3 "|" "|=" 124 "||"; finish s' false t ""
    else if ch == 126 then finish s1 false .tilde ""
    else
      let s1 :=
        if ch == 0xFEFF then s1
        else if ch == 0x201C || ch == 0x201D then
          s1.report pos ("curly quotation mark '" ++ String.singleton (Char.ofNat ch.toNat) ++ "' (use neutral '\"')")
        else s1.report pos ("invalid character " ++ describeChar ch.toNat)
      finish s1 s.insertSemi .illegal (String.singleton (Char.ofNat ch.toNat))

end Scanner

end UpnpBind.GoSource
