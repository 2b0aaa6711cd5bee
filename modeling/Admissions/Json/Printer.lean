import Admissions.Json.Value

namespace Admissions.Json

/-- Plain up to sixteen digits before the point and four zeros after it, else with an exponent
    that carries its sign. -/
def doubleLayout : Double.Layout := ⟨-5, 15, 1⟩

def Number.render : Number → List Char
  | .int n => if n < 0 then '-' :: Nat.toDigits 10 n.natAbs else Nat.toDigits 10 n.natAbs
  | .float x => x.write doubleLayout

def renderChar (c : Char) : List Char :=
  if c = '"' then ['\\', '"']
  else if c = '\\' then ['\\', '\\']
  else if c = '\n' then ['\\', 'n']
  else if c = '\r' then ['\\', 'r']
  else if c = '\t' then ['\\', 't']
  else if c = '\x08' then ['\\', 'b']
  else if c = '\x0c' then ['\\', 'f']
  else if c.toNat < 0x20 then
    ['\\', 'u', '0', '0', Nat.digitChar (c.toNat / 16), Nat.digitChar (c.toNat % 16)]
  else [c]

def renderString (s : String) : List Char :=
  '"' :: (s.toList.flatMap renderChar ++ ['"'])

namespace Value

mutual

def render : Value → List Char
  | .null => ['n', 'u', 'l', 'l']
  | .bool true => ['t', 'r', 'u', 'e']
  | .bool false => ['f', 'a', 'l', 's', 'e']
  | .number n => n.render
  | .string s => renderString s
  | .array [] => ['[', ']']
  | .array (item :: rest) => '[' :: (render item ++ renderItems rest)
  | .object [] => ['\x7b', '\x7d']
  | .object ((name, item) :: rest) =>
    '\x7b' :: (renderString name ++ ':' :: (render item ++ renderMembers rest))

def renderItems : List Value → List Char
  | [] => [']']
  | item :: rest => ',' :: (render item ++ renderItems rest)

def renderMembers : List (String × Value) → List Char
  | [] => ['\x7d']
  | (name, item) :: rest =>
    ',' :: (renderString name ++ ':' :: (render item ++ renderMembers rest))

end

def text (value : Value) : String := String.ofList value.render

def newLine (depth : Nat) : List Char := '\n' :: List.replicate (2 * depth) ' '

mutual

def renderIndented (depth : Nat) : Value → List Char
  | .array (item :: rest) =>
    '[' :: (newLine (depth + 1) ++ renderIndented (depth + 1) item ++
      renderIndentedItems depth rest)
  | .object ((name, item) :: rest) =>
    '\x7b' :: (newLine (depth + 1) ++ renderString name ++ ':' :: ' ' ::
      (renderIndented (depth + 1) item ++ renderIndentedMembers depth rest))
  | .array [] => ['[', ']']
  | .object [] => ['\x7b', '\x7d']
  | .null => render .null
  | .bool b => render (.bool b)
  | .number n => n.render
  | .string s => renderString s

def renderIndentedItems (depth : Nat) : List Value → List Char
  | [] => newLine depth ++ [']']
  | item :: rest =>
    ',' :: (newLine (depth + 1) ++ renderIndented (depth + 1) item ++
      renderIndentedItems depth rest)

def renderIndentedMembers (depth : Nat) : List (String × Value) → List Char
  | [] => newLine depth ++ ['\x7d']
  | (name, item) :: rest =>
    ',' :: (newLine (depth + 1) ++ renderString name ++ ':' :: ' ' ::
      (renderIndented (depth + 1) item ++ renderIndentedMembers depth rest))

end

def indentedText (value : Value) : String := String.ofList (value.renderIndented 0)

end Value

end Admissions.Json
