import JobDispatch.Shell.Utility
import JobDispatch.Text.Decimal

/-!
Formatted printing: a format is written again and again until its operands are used up. A directive
without an operand is written as if for an empty one.
-/

namespace JobDispatch.Shell

/-- How a printf speaks, and which escapes it knows. -/
structure PrintfStyle where
  format : EscapeRules
  operand : EscapeRules
  /-- who speaks -/
  speaker : String
  /-- how a faulty operand is named -/
  quote : String → String
  noNumber : String
  partlyNumber : String
  badDirective : String
  noFormat : String
  noFormatStatus : Nat
  /-- whether operands that no directive takes are spoken of -/
  warns : Bool

/-- A directive: how an operand is written. -/
structure Directive where
  left : Bool
  plus : Bool
  blank : Bool
  alternate : Bool
  zeros : Bool
  width : Nat
  precision : Option Nat
  conversion : Option Char
  deriving Repr

namespace Directive

def plain : Directive := ⟨false, false, false, false, false, 0, none, none⟩

def withFlag (d : Directive) : Char → Option Directive
  | '-' => some { d with left := true }
  | '+' => some { d with plus := true }
  | ' ' => some { d with blank := true }
  | '#' => some { d with alternate := true }
  | '0' => some { d with zeros := true }
  | _ => none

def readFlags (d : Directive) : List Char → Directive × List Char
  | [] => (d, [])
  | c :: cs =>
    match d.withFlag c with
    | some d => readFlags d cs
    | none => (d, c :: cs)

end Directive

/-- What is written, what is said, and what is left of the operands. -/
structure Printing where
  out : List UInt8
  err : List UInt8
  failed : Bool
  /-- whether all output has ended -/
  stopped : Bool
  operands : List String

abbrev PrintingM := StateM Printing

namespace Printing

def write (bs : List UInt8) : PrintingM Unit := modify fun p => { p with out := p.out ++ bs }

def complain (style : PrintfStyle) (text : String) : PrintingM Unit := modify fun p =>
  { p with err := p.err ++ bytesOf (style.speaker ++ ": " ++ text ++ "\n"), failed := true }

def stop : PrintingM Unit := modify fun p => { p with stopped := true }

def operand : PrintingM String :=
  modifyGet fun p => (p.operands.headD "", { p with operands := p.operands.tail })

/-- The number that a text begins with, in the base that its own beginning names, and what
follows it. -/
def readNumber (cs : List Char) : Option (Int × List Char) :=
  let isBlank (c : Char) : Bool := c.toNat = 32 || (9 ≤ c.toNat && c.toNat ≤ 13)
  let (negative, ds) := match cs.dropWhile isBlank with
    | '-' :: r => (true, r)
    | '+' :: r => (false, r)
    | r => (false, r)
  let all := ds.length
  let octalOrDecimal := if ds.head? = some '0' then readDigitsOf 8 octalValue? all ds
    else readDigitsOf 10 (fun c => if c.isDigit then hexValue? c else none) all ds
  let number := match ds with
    | '0' :: 'x' :: r => (readDigitsOf 16 hexValue? all r).or octalOrDecimal
    | '0' :: 'X' :: r => (readDigitsOf 16 hexValue? all r).or octalOrDecimal
    | _ => octalOrDecimal
  number.map fun (n, rest) => (if negative then -Int.ofNat n else n, rest)

/-- The number of an operand; a faulty one is spoken of. -/
def number (style : PrintfStyle) (low high : Int) : PrintingM Int := do
  let s ← operand
  let fault (text : String) := complain style (style.quote s ++ ": " ++ text)
  match s.toList with
  | [] => return 0
  | ['\''] => return 39
  | ['"'] => return 34
  | '\'' :: c :: _ => return c.toNat
  | '"' :: c :: _ => return c.toNat
  | cs =>
    match readNumber cs with
    | none =>
      fault style.noNumber
      return 0
    | some (n, rest) =>
      if n < low || high < n then
        fault "Numerical result out of range"
        return max low (min n high)
      if !rest.isEmpty then fault style.partlyNumber
      return n

def pad (d : Directive) (bs : List UInt8) : List UInt8 :=
  let fill := List.replicate (d.width - bs.length) 0x20
  if d.left then bs ++ fill else fill ++ bs

/-- The digits of a number in a base, the first first. -/
def digitsIn (base : Nat) (upper : Bool) (n : Nat) : List Char :=
  (Nat.toDigits base n).map fun c => if upper then c.toUpper else c

/-- A sign and digits with zeros between them, as wide as a directive asks for. -/
def padDigits (d : Directive) (sign : String) (digits : List Char) : List UInt8 :=
  let digits := if d.precision = some 0 && digits = ['0'] then [] else digits
  let least := match d.precision with
    | some p => p
    | none => if d.zeros && !d.left then d.width - sign.length else 0
  pad d (bytesOf sign ++
    Text.utf8 (List.replicate (least - digits.length) '0' ++ digits))

def signOf (d : Directive) (n : Int) : String :=
  if n < 0 then "-" else if d.plus then "+" else if d.blank then " " else ""

/-- Writes a number without a sign; negative ones count down from the largest. -/
def unsigned (style : PrintfStyle) (d : Directive) (base : Nat) (upper : Bool) (mark : String) :
    PrintingM Unit := do
  let n := ((← number style (-Int.ofNat Text.maxWord) Text.maxWord) % (Text.maxWord + 1)).toNat
  let mark := if d.alternate && n != 0 then mark else ""
  write (padDigits d mark (digitsIn base upper n))

/-- Writes an operand as a directive says; false for a directive that there is not. -/
def convert (style : PrintfStyle) (d : Directive) : PrintingM Bool := do
  let cut (bs : List UInt8) : List UInt8 :=
    match d.precision with
    | some p => bs.take p
    | none => bs
  match d.conversion with
  | some 's' => do
    write (pad d (cut (bytesOf (← operand))))
    return true
  | some 'b' => do
    let u := style.operand.unescape (← operand)
    write (pad d (cut u.bytes))
    if u.stopped then stop
    return true
  | some 'c' => do
    write (pad d [(bytesOf (← operand)).headD 0])
    return true
  | some 'o' => do
    unsigned style d 8 false "0"
    return true
  | some 'u' => do
    unsigned style d 10 false ""
    return true
  | some 'x' => do
    unsigned style d 16 false "0x"
    return true
  | some 'X' => do
    unsigned style d 16 true "0X"
    return true
  | some c => do
    if c != 'd' && c != 'i' then return false
    let n ← number style Text.minSigned Text.maxSigned
    write (padDigits d (signOf d n) (Text.digits n.natAbs))
    return true
  | none => return false

/-- A width or a precision, which may come from an operand. -/
def amount (style : PrintfStyle) : List Char → PrintingM (Option Int × List Char)
  | '*' :: cs => do return (some (← number style Text.minSigned Text.maxSigned), cs)
  | cs =>
    let ds := cs.takeWhile Char.isDigit
    return ((Text.readDigits ds).map Int.ofNat, cs.drop ds.length)

/-- The directive behind a percent sign, and what follows it. -/
def directive (style : PrintfStyle) (cs : List Char) : PrintingM (Directive × List Char) := do
  let (d, cs) := Directive.plain.readFlags cs
  let (width, cs) ← amount style cs
  let w := width.getD 0
  let d := { d with width := w.natAbs, left := d.left || w < 0 }
  let (d, cs) ← match cs with
    | '.' :: cs => do
      let (precision, cs) ← amount style cs
      let p := precision.getD 0
      pure ({ d with precision := if p < 0 then none else some p.toNat }, cs)
    | cs => pure (d, cs)
  return ({ d with conversion := cs.head? }, cs.tail)

/-- Writes a format of up to `room` characters once. -/
def once (style : PrintfStyle) : Nat → List Char → PrintingM Unit
  | 0, _ => return
  | _, [] => return
  | room + 1, '%' :: '%' :: cs => do
    write [0x25]
    once style room cs
  | room + 1, '%' :: cs => do
    let (d, rest) ← directive style cs
    if ← convert style d then
      if !(← get).stopped then once style room rest
    else
      let shown := String.ofList ('%' :: cs.take (cs.length - rest.length))
      complain style (shown ++ ": " ++ style.badDirective)
      stop
  | room + 1, '\\' :: cs => do
    if style.format.stops && cs.head? = some 'c' then stop
    else match style.format.byte? cs with
      | some (b, rest) => do
        write [b]
        once style room rest
      | none => do
        write [0x5C]
        once style room cs
  | room + 1, c :: cs => do
    write (String.utf8EncodeChar c)
    once style room cs

/-- Writes a format up to `times` times, as long as it takes operands and there are any. -/
def again (style : PrintfStyle) (format : List Char) : Nat → PrintingM Unit
  | 0 => return
  | times + 1 => do
    let before := (← get).operands.length
    once style format.length format
    let p ← get
    if !p.stopped && !p.operands.isEmpty then
      if p.operands.length < before then again style format times
      else if style.warns then
        let said := "warning: ignoring excess arguments, starting with " ++
          style.quote (p.operands.headD "")
        complain style said
        modify fun q => { q with failed := p.failed }

end Printing

/-- Takes the mark that ends options off a program's operands. -/
def withoutOptionEnd : List String → List String
  | "--" :: args => args
  | args => args

/-- Prints operands in a format. -/
def PrintfStyle.run (style : PrintfStyle) : Utility := fun args _ =>
  match withoutOptionEnd args with
  | [] => ⟨some style.noFormatStatus, [], bytesOf style.noFormat⟩
  | format :: operands =>
    let start : Printing := ⟨[], [], false, false, operands⟩
    let (_, p) := (Printing.again style format.toList (operands.length + 1)).run start
    ⟨some (if p.failed then 1 else 0), p.out, p.err⟩

/-- The printf that is a program of a name. -/
def PrintfStyle.program (name : String) : PrintfStyle where
  format := ⟨false, true, true, true⟩
  operand := ⟨true, true, true, true⟩
  speaker := name
  quote s := "'" ++ s ++ "'"
  noNumber := "expected a numeric value"
  partlyNumber := "value not completely converted"
  badDirective := "invalid conversion specification"
  noFormat := name ++ ": missing operand\nTry '" ++ name ++ " --help' for more information.\n"
  noFormatStatus := 1
  warns := true

end JobDispatch.Shell
