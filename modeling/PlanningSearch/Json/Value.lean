import PlanningSearch.Json.Token

/-!
JSON values and their compact text. Members are written in the order in which they are held;
`insertMember` keeps members sorted by name, the last value of a repeated name winning.
-/

namespace PlanningSearch.Json

inductive Value where
  | null
  | bool (b : Bool)
  | number (n : Number)
  | text (s : String)
  | array (items : List Value)
  | object (members : List (String × Value))

namespace Value

def nat (n : Nat) : Value := .number (.int n)

def texts (ss : List String) : Value := .array (ss.map .text)

def ofOption (f : α → Value) : Option α → Value
  | none => .null
  | some a => f a

def hexLetter (n : Nat) : Char := (Nat.toDigits 16 n).headD '0'

def escapeChar (c : Char) : List Char :=
  match c with
  | '"' => ['\\', '"']
  | '\\' => ['\\', '\\']
  | '\x08' => ['\\', 'b']
  | '\x0c' => ['\\', 'f']
  | '\n' => ['\\', 'n']
  | '\r' => ['\\', 'r']
  | '\t' => ['\\', 't']
  | c =>
    if c.toNat < 0x20 then
      ['\\', 'u', '0', '0', hexLetter (c.toNat / 16), hexLetter (c.toNat % 16)]
    else [c]

def quote (cs : List Char) : List Char := '"' :: cs.flatMap escapeChar ++ ['"']

mutual

def renderChars : Value → List Char
  | null => "null".toList
  | bool b => (if b then "true" else "false").toList
  | number n => n.render.toList
  | text s => quote s.toList
  | array [] => ['[', ']']
  | array (v :: vs) => '[' :: renderChars v ++ renderItems vs
  | object [] => ['\x7b', '\x7d']
  | object ((k, v) :: ms) => '\x7b' :: quote k.toList ++ ':' :: renderChars v ++ renderMembers ms

def renderItems : List Value → List Char
  | [] => [']']
  | v :: vs => ',' :: renderChars v ++ renderItems vs

def renderMembers : List (String × Value) → List Char
  | [] => ['\x7d']
  | (k, v) :: ms => ',' :: quote k.toList ++ ':' :: renderChars v ++ renderMembers ms

end

def render (v : Value) : String := String.ofList v.renderChars

def insertMember (k : String) (v : Value) : List (String × Value) → List (String × Value)
  | [] => [(k, v)]
  | (k', v') :: ms =>
    if k < k' then (k, v) :: (k', v') :: ms
    else if k = k' then (k, v) :: ms
    else (k', v') :: insertMember k v ms

def member? (v : Value) (k : String) : Option Value :=
  match v with
  | .object ms => (ms.find? fun m => m.1 == k).map Prod.snd
  | _ => none

end Value

end PlanningSearch.Json
