import PlanChain.Toml.Scalar

set_option autoImplicit false

namespace PlanChain.Toml

open Text

-- How deep arrays and inline tables may nest, and how many parts a key may have.
def depthLimit : Nat := 79

def skipSpace (inComment : Bool) : List Char → List Char
  | [] => []
  | '\r' :: '\n' :: rest => skipSpace false rest
  | '\n' :: rest => skipSpace false rest
  | c :: rest =>
    if inComment then if isPlain c then skipSpace true rest else c :: rest
    else if c = '#' then skipSpace true rest
    else if isGap c then skipSpace false rest
    else c :: rest

def isBareKeyChar (c : Char) : Bool :=
  isDecimalDigit c || ('a' ≤ c && c ≤ 'z') || ('A' ≤ c && c ≤ 'Z') || c = '_' || c = '-'

def keyPart : Reader String := fun input =>
  match input with
  | '"' :: rest => (basicTail rest).map fun (body, rest) => (String.ofList body, rest)
  | '\x27' :: rest => (literalTail rest).map fun (body, rest) => (String.ofList body, rest)
  | _ =>
    let bare := input.takeWhile isBareKeyChar
    if bare.isEmpty then none else some (String.ofList bare, input.drop bare.length)

def key : (limit : Nat) → Reader (List String)
  | 0, _ => none
  | limit + 1, input => do
    let (part, rest) ← keyPart (skipGaps input)
    match skipGaps rest with
    | '.' :: rest =>
      let (more, rest) ← key limit rest
      some (part :: more, rest)
    | rest => some ([part], rest)

def items (value : Reader Node) : (fuel : Nat) → Reader (List Node)
  | 0, _ => none
  | fuel + 1, input =>
    match skipSpace false input with
    | ']' :: rest => some ([], rest)
    | input => do
      let (item, rest) ← value input
      match skipSpace false rest with
      | ']' :: rest => some ([item], rest)
      | ',' :: rest =>
        let (more, rest) ← items value fuel rest
        some (item :: more, rest)
      | _ => none

def pair (value : Reader Node) : Reader (List String × Node) := fun input => do
  let (key, rest) ← key depthLimit input
  let (node, rest) ← value (skipGaps (← after? ['='] rest))
  some ((key, node), rest)

-- The entries after an opening brace, up to the closing one, added to those before. No comma may follow
-- the last.
def inlineEntries (value : Reader Node) : (fuel : Nat) → Entries → Reader Entries
  | 0, _, _ => none
  | fuel + 1, entries, input => do
    let ((key, node), rest) ← pair value input
    let entries ← assign key node entries
    match skipGaps rest with
    | '\x7d' :: rest => some (entries, rest)
    | ',' :: rest => inlineEntries value fuel entries rest
    | _ => none

def value (limit : Nat) : (depth : Nat) → Reader Node
  | depth, input =>
    match input, depth with
    | '[' :: _, 0 | '\x7b' :: _, 0 => none
    | '[' :: rest, depth + 1 =>
      (items (value limit depth) limit rest).map fun (found, rest) => (.array found, rest)
    | '\x7b' :: rest, depth + 1 =>
      match skipGaps rest with
      | '\x7d' :: rest => some (.table .inline [], rest)
      | inner =>
        (inlineEntries (value limit depth) limit [] inner).map fun (entries, rest) =>
          (.table .inline entries, rest)
    | input, _ => scalar input

def lineEnd? (input : List Char) : Option (List Char) :=
  let rest := match skipGaps input with
    | '#' :: comment => comment.dropWhile isPlain
    | rest => rest
  if rest.isEmpty then some [] else lineBreak? rest

structure Document where
  root : Entries := []
  header : List String := []

def line (limit : Nat) (document : Document) (input : List Char) : Option (Document × List Char) :=
  match input with
  | '\n' :: _ | '\r' :: _ | '#' :: _ => (lineEnd? input).map (document, ·)
  | '[' :: '[' :: rest => do
    let (header, rest) ← key depthLimit rest
    let rest ← lineEnd? (← after? [']', ']'] rest)
    some ({ root := ← addTable header document.root, header }, rest)
  | '[' :: rest => do
    let (header, rest) ← key depthLimit rest
    let rest ← lineEnd? (← after? [']'] rest)
    some ({ root := ← openTable header document.root, header }, rest)
  | _ => do
    let ((key, node), rest) ← pair (value limit depthLimit) input
    let rest ← lineEnd? rest
    some ({ document with root := ← assignIn document.header key node document.root }, rest)

def lines (limit : Nat) : (fuel : Nat) → Document → List Char → Option Document
  | 0, _, _ => none
  | fuel + 1, document, input =>
    match skipGaps input with
    | [] => some document
    | input => do
      let (document, rest) ← line limit document input
      lines limit fuel document rest

-- The document that a text holds. A mark of the byte order may come first.
def parse? (text : String) : Option Entries :=
  let input := match text.toList with
    | '\ufeff' :: rest => rest
    | input => input
  (lines (input.length + 1) (input.length + 1) {} input).map (·.root)

end PlanChain.Toml
