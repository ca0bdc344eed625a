import JobDispatch.Shell.Token
import JobDispatch.Shell.Printf

/-!
Sums of whole numbers in scripts. Names stand for the values of variables.
-/

namespace JobDispatch.Shell.Arithmetic

inductive Symbol where
  | number (n : Int)
  | name (s : String)
  | sign (s : String)
  deriving DecidableEq, Repr

def signs : List String :=
  ["<<", ">>", "<=", ">=", "==", "!=", "&&", "||", "+", "-", "*", "/", "%", "<", ">", "&", "|",
    "^", "!", "(", ")"]

/-- What is wrong with a sum. -/
inductive Flaw where
  | noOperand
  | unexpected
  | divisionByZero
  | notClosed
  deriving DecidableEq, Repr

def Flaw.message : Flaw → String
  | noOperand => "expecting primary"
  | unexpected => "expecting EOF"
  | divisionByZero => "division by zero"
  | notClosed => "expecting ')'"

/-- The symbols of a text of up to `room` characters. -/
def read : Nat → List Char → Except Flaw (List Symbol)
  | 0, _ => .ok []
  | _, [] => .ok []
  | room + 1, c :: cs =>
    if c = ' ' || c = '\t' || c = '\n' then read room cs
    else if c.isDigit then
      match Printing.readNumber (c :: cs) with
      | some (n, rest) => (.number n :: ·) <$> read room rest
      | none => .error .noOperand
    else if Token.isNameStart c then
      (.name (String.ofList (c :: cs.takeWhile Token.isNameRest)) :: ·) <$>
        read room (cs.dropWhile Token.isNameRest)
    else match Token.sign? signs (c :: cs) with
      | some (s, rest) => (.sign s :: ·) <$> read room rest
      | none => .error .unexpected

/-- The signs between two numbers, those that bind least first. -/
def levels : List (List String) :=
  [["||"], ["&&"], ["|"], ["^"], ["&"], ["==", "!="], ["<=", ">=", "<", ">"], ["<<", ">>"],
    ["+", "-"], ["*", "/", "%"]]

def truth (b : Bool) : Int := if b then 1 else 0

/-- What a sign makes of two numbers; nothing for a division by zero. -/
def apply (s : String) (a b : Int) : Option Int :=
  match s with
  | "||" => some (truth (a != 0 || b != 0))
  | "&&" => some (truth (a != 0 && b != 0))
  | "|" => some (BitVec.ofInt 64 a ||| BitVec.ofInt 64 b).toInt
  | "^" => some (BitVec.ofInt 64 a ^^^ BitVec.ofInt 64 b).toInt
  | "&" => some (BitVec.ofInt 64 a &&& BitVec.ofInt 64 b).toInt
  | "==" => some (truth (a == b))
  | "!=" => some (truth (a != b))
  | "<=" => some (truth (a ≤ b))
  | ">=" => some (truth (b ≤ a))
  | "<" => some (truth (a < b))
  | ">" => some (truth (b < a))
  | "<<" => some (a * Int.ofNat (Nat.pow 2 (b.toNat % 64)))
  | ">>" => some (Int.fdiv a (Int.ofNat (Nat.pow 2 (b.toNat % 64))))
  | "+" => some (a + b)
  | "-" => some (a - b)
  | "*" => some (a * b)
  | "/" => if b = 0 then none else some (Int.tdiv a b)
  | "%" => if b = 0 then none else some (Int.tmod a b)
  | _ => none

/-- A number as words of 64 bits hold it. -/
def wrap (n : Int) : Int := Int.bmod n (Text.maxWord + 1)

variable (lookup : String → Int)

mutual

/-- The value of what binds at least as much as the first of some levels. -/
def level : Nat → List (List String) → List Symbol → Except Flaw (Int × List Symbol)
  | 0, _, _ => .error .noOperand
  | room + 1, [], ts => operand room ts
  | room + 1, signs :: rest, ts => do
    let (a, ts) ← level room rest ts
    levelFrom room signs rest a ts

def levelFrom : Nat → List String → List (List String) → Int → List Symbol →
    Except Flaw (Int × List Symbol)
  | 0, _, _, _, _ => .error .noOperand
  | room + 1, signs, rest, a, .sign s :: ts =>
    if signs.contains s then do
      let (b, ts) ← level room rest ts
      match apply s a b with
      | some n => levelFrom room signs rest (wrap n) ts
      | none => .error .divisionByZero
    else .ok (a, .sign s :: ts)
  | _ + 1, _, _, a, ts => .ok (a, ts)

def operand : Nat → List Symbol → Except Flaw (Int × List Symbol)
  | _ + 1, .number n :: ts => .ok (wrap n, ts)
  | _ + 1, .name s :: ts => .ok (lookup s, ts)
  | room + 1, .sign "-" :: ts => do
    let (n, ts) ← operand room ts
    return (wrap (-n), ts)
  | room + 1, .sign "+" :: ts => operand room ts
  | room + 1, .sign "!" :: ts => do
    let (n, ts) ← operand room ts
    return (truth (n == 0), ts)
  | room + 1, .sign "(" :: ts => do
    match ← level room levels ts with
    | (n, .sign ")" :: ts) => .ok (n, ts)
    | _ => .error .notClosed
  | _, _ => .error .noOperand

end

/-- The value of a text. -/
def value (text : List Char) : Except Flaw Int := do
  match ← read text.length text with
  | [] => return 0
  | symbols =>
    match ← level lookup (16 * symbols.length + 16) levels symbols with
    | (n, []) => return n
    | _ => .error .unexpected

end JobDispatch.Shell.Arithmetic
