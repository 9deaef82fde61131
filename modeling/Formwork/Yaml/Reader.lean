import Formwork.Yaml.Scalar
import Formwork.Text.Quoted

/-!
Reading YAML. A document is read into a value by following its indentation: a block collection ends
where a line begins further left than its entries, and a flow collection ends at its bracket. What
the reader refuses is what is no document, has several documents, names an unknown anchor or type,
or has a key that is itself a collection.
-/
namespace Formwork.Yaml

structure Cursor where
  /-- The text from here on. -/
  rest : List Char
  /-- The number of line ends before. -/
  line : Nat
  /-- The number of characters before on the same line. -/
  column : Nat
  /-- Whether only spaces stand before on the same line. -/
  fresh : Bool
  /-- The values that anchors name so far. -/
  anchors : List (String × Value)

def isLineEnd (c : Char) : Bool :=
  c == '\n' || c.toNat == 0x2028 || c.toNat == 0x2029

/-- Whether the text ends here, or a blank or a line end comes next. -/
def atBlank (cs : List Char) : Bool :=
  match cs with
  | [] => true
  | c :: _ => c == ' ' || c == '\t' || isLineEnd c

namespace Cursor

/-- Step over one character. -/
def next (c : Cursor) : Cursor :=
  match c.rest with
  | [] => c
  | ch :: rest =>
    if isLineEnd ch then { c with rest, line := c.line + 1, column := 0, fresh := true }
    else { c with rest, column := c.column + 1, fresh := c.fresh && ch == ' ' }

/-- Step over several characters. -/
def advance (c : Cursor) : Nat → Cursor
  | 0 => c
  | n + 1 => c.next.advance n

/-- Step over characters of a class on one line. -/
def skipWhere (c : Cursor) (p : Char → Bool) : Cursor :=
  c.advance (c.rest.takeWhile p).length

/-- The start of the next token: after spaces, comments and line ends. -/
def toToken (c : Cursor) : Nat → Cursor
  | 0 => c
  | fuel + 1 =>
    let c := c.skipWhere (· == ' ')
    let c := match c.rest with
      | '#' :: _ => c.skipWhere (fun ch => !isLineEnd ch)
      | _ => c
    match c.rest with
    | ch :: _ => if isLineEnd ch then c.next.toToken fuel else c
    | [] => c

def token (c : Cursor) : Cursor :=
  c.toToken (c.rest.length + 1)

/-- Whether a mark of three characters that separates documents stands here. -/
def atMark (c : Cursor) (mark : Char) : Bool :=
  c.column == 0 && c.rest.take 3 == [mark, mark, mark] && atBlank (c.rest.drop 3)

/-- Whether the document ends here. -/
def atEnd (c : Cursor) : Bool :=
  c.rest.isEmpty || c.atMark '-' || c.atMark '.'

/-- Whether an entry of a block sequence begins here. -/
def atEntry (c : Cursor) : Bool :=
  match c.rest with
  | '-' :: rest => atBlank rest
  | _ => false

/-- Whether an explicit key begins here. -/
def atExplicitKey (c : Cursor) : Bool :=
  match c.rest with
  | '?' :: rest => atBlank rest
  | _ => false

/-- Whether the sign of a value stands here, in a flow collection or not. -/
def atValueSign (c : Cursor) (flow : Bool) : Bool :=
  match c.rest with
  | ':' :: rest => flow || atBlank rest
  | _ => false

end Cursor

/-- What stands before a node: its anchor and its type. -/
structure Properties where
  /-- The name that the node is given. -/
  anchor : Option String := none
  type : Option String := none

/-- A node that may be a key: a scalar with its way of writing, or a finished value. -/
inductive Inline where
  | scalar (s : String) (plain : Bool)
  | value (v : Value)

/-- A key with the value that belongs to it, or a mapping to merge. -/
inductive Entry where
  | pair (key value : Value)
  /-- A mapping whose entries come first. -/
  | merge (v : Value)

/-- Whether the value is a collection, which cannot be a key. -/
def isCollection : Value → Bool
  | .list _ => true
  | .map _ => true
  | _ => false

/-- The entries that a merged value brings, later ones taking precedence. -/
def mergedEntries? : Value → Option (List (Value × Value))
  | .map entries => some entries
  | .list items =>
    (items.reverse.mapM (fun (item : Value) => match item with
      | Value.map entries => some entries
      | _ => none)).map List.flatten
  | _ => none

/-- The mapping of the entries of a node. -/
def mapping? (entries : List Entry) : Option Value := do
  let merged ← entries.mapM (fun (e : Entry) => match e with
    | .merge v => mergedEntries? v
    | .pair .. => some [])
  let own ← entries.mapM (fun (e : Entry) => match e with
    | .merge _ => some []
    | .pair k v => if isCollection k then none else some [(k, v)])
  some (.map ((merged.flatten ++ own.flatten).foldl (fun done (k, v) => Value.put k v done) []))

/-- The value of a scalar with the given type. -/
def scalarValue? (type : Option String) (s : String) (plain : Bool) : Option Value :=
  match type with
  | none =>
    if plain then
      match meaning s with
      | .value v => some v
      | _ => none
    else some (.text s)
  | some "!" => some (.text s)
  | some "!!str" => some (.text s)
  | some "!!null" => some .null
  | some "!!bool" =>
    let word := s.toLower
    if ["yes", "true", "on"].contains word then some (.bool true)
    else if ["no", "false", "off"].contains word then some (.bool false)
    else none
  | some "!!int" =>
    let (negative, cs) := takeSign s.toList
    (integerSize? cs).map (fun n => .int (if negative then -(n : Int) else (n : Int)))
  | some "!!float" => (readDecimal? s).map .double
  | some _ => none

/-- The value of an inline node under its properties. -/
def inlineValue? (p : Properties) : Inline → Option Value
  | .scalar s plain => scalarValue? p.type s plain
  | .value v => match p.type with
    | none => some v
    | some t => if t == "!!map" || t == "!!seq" || t == "!" then some v else none

/-- Give a value the name of its anchor. -/
def Cursor.name (c : Cursor) (p : Properties) (v : Value) : Cursor :=
  match p.anchor with
  | some a => { c with anchors := (a, v) :: c.anchors }
  | none => c

/-- The first indicators that no plain scalar may begin with. -/
def indicators : List Char :=
  ['-', '?', ':', ',', '[', ']', '\x7b', '\x7d', '#', '&', '*', '!', '|', '>', '\x27', '\x22', '%',
   '@', '\x60']

/-- Whether a plain scalar begins here. -/
def startsPlain (flow : Bool) (cs : List Char) : Bool :=
  match cs with
  | [] => false
  | c :: rest =>
    if c == ' ' || c == '\t' || isLineEnd c then false
    else if !indicators.contains c then true
    else !atBlank rest && (c == '-' || (!flow && (c == '?' || c == ':')))

/-- The characters of a plain scalar up to a blank or a sign that ends it. -/
def plainRun (flow : Bool) : List Char → List Char
  | [] => []
  | c :: rest =>
    if c == ' ' || c == '\t' || isLineEnd c then []
    else if c == ':' &&
        (atBlank rest ||
          (flow && rest.head?.any (fun d => ",[]\x7b\x7d".toList.contains d))) then []
    else if flow && ",?[]\x7b\x7d".toList.contains c then []
    else c :: plainRun flow rest

/-- The line ends, and the spaces before them, that follow a first line end; none are kept when a
document mark stands at the start of a line. -/
def lineEnds (c : Cursor) (done : List Char) : Nat → List Char × Cursor
  | 0 => (done.reverse, c)
  | fuel + 1 =>
    if c.atMark '-' || c.atMark '.' then (done.reverse, c)
    else
      let c' := c.skipWhere (· == ' ')
      match c'.rest with
      | ch :: _ => if isLineEnd ch then lineEnds c'.next (ch :: done) fuel else (done.reverse, c')
      | [] => (done.reverse, c')

/-- How line ends inside a flowing scalar read: one line end is a space, more are kept but one. -/
def foldLines (first : Char) (more : List Char) : List Char :=
  if first != '\n' then first :: more
  else if more.isEmpty then [' ']
  else more

/-- The rest of a plain scalar. `pending` are the blanks not yet known to be inside it. -/
def readPlain (flow : Bool) (indent : Int) (done pending : List Char) (c : Cursor) :
    Nat → List Char × Cursor
  | 0 => (done, c)
  | fuel + 1 =>
    let run := match c.rest with
      | '#' :: _ => []
      | cs => plainRun flow cs
    if run.isEmpty then (done, c)
    else
      let done := done ++ pending ++ run
      let c := c.advance run.length
      let spaces := c.rest.takeWhile (· == ' ')
      let after := c.advance spaces.length
      match after.rest with
      | [] => (done, after)
      | ch :: _ =>
        if isLineEnd ch then
          let start := after.next
          if start.atMark '-' || start.atMark '.' then (done, start)
          else
            let (more, c') := lineEnds start [] (start.rest.length + 1)
            if c'.atMark '-' || c'.atMark '.' || c'.rest.head? == some '#' ||
                (!flow && (c'.column : Int) < indent) then (done, c')
            else readPlain flow indent done (foldLines ch more) c' fuel
        else if spaces.isEmpty || ch == '#' then (done, after)
        else readPlain flow indent done spaces after fuel

/-- The character that a letter after a backslash stands for. -/
def escapeChar? (c : Char) : Option Char :=
  match c with
  | '0' => some (Char.ofNat 0)
  | 'a' => some '\x07'
  | 'b' => some '\x08'
  | 't' => some '\t'
  | '\t' => some '\t'
  | 'n' => some '\n'
  | 'v' => some '\x0b'
  | 'f' => some '\x0c'
  | 'r' => some '\r'
  | 'e' => some '\x1b'
  | ' ' => some ' '
  | '\x22' => some '\x22'
  | '\\' => some '\\'
  | '/' => some '/'
  | 'N' => some (Char.ofNat 0x85)
  | '_' => some (Char.ofNat 0xa0)
  | 'L' => some (Char.ofNat 0x2028)
  | 'P' => some (Char.ofNat 0x2029)
  | _ => none

/-- How many digits follow the letter of a numeric escape. -/
def escapeWidth? : Char → Option Nat
  | 'x' => some 2
  | 'u' => some 4
  | 'U' => some 8
  | _ => none

/-- The breaks of a quoted scalar after a line end: blanks are passed over, a document mark is
refused. -/
def quotedBreaks (c : Cursor) (done : List Char) : Nat → Option (List Char × Cursor)
  | 0 => none
  | fuel + 1 =>
    if c.atMark '-' || c.atMark '.' then none
    else
      let c' := c.skipWhere (fun ch => ch == ' ' || ch == '\t')
      match c'.rest with
      | ch :: _ =>
        if isLineEnd ch then quotedBreaks c'.next (ch :: done) fuel else some (done.reverse, c')
      | [] => some (done.reverse, c')

/-- The digits of numbers in base sixteen. -/
def isHexDigit (c : Char) : Bool :=
  c.isDigit || ('a' ≤ c.toLower && c.toLower ≤ 'f')

/-- The rest of a quoted scalar: its characters, latest first, and what follows the closing
quote. -/
def readQuoted (mark : Char) (done : List Char) (c : Cursor) : Nat → Option (List Char × Cursor)
  | 0 => none
  | fuel + 1 =>
    match c.rest with
    | [] => none
    | ch :: rest =>
      if ch == mark then
        if mark == '\x27' && rest.head? == some '\x27' then
          readQuoted mark ('\x27' :: done) (c.advance 2) fuel
        else some (done, c.next)
      else if ch == '\\' && mark == '\x22' then
        match rest with
        | [] => none
        | e :: more =>
          match escapeWidth? e with
          | some width =>
            let ds := more.take width
            if ds.length == width && ds.all isHexDigit then
              readQuoted mark (Char.ofNat (valueInBase 16 ds) :: done) (c.advance (2 + width)) fuel
            else none
          | none =>
            if isLineEnd e then
              match quotedBreaks (c.advance 2) [] (more.length + 2) with
              | some (breaks, c') => readQuoted mark (breaks.reverse ++ done) c' fuel
              | none => none
            else match escapeChar? e with
              | some d => readQuoted mark (d :: done) (c.advance 2) fuel
              | none => none
      else if ch == ' ' || ch == '\t' || isLineEnd ch then
        let blanks := c.rest.takeWhile (fun d => d == ' ' || d == '\t')
        let c' := c.advance blanks.length
        match c'.rest with
        | [] => none
        | b :: after =>
          if isLineEnd b then
            match quotedBreaks c'.next [] (after.length + 2) with
            | some (more, c'') => readQuoted mark ((foldLines b more).reverse ++ done) c'' fuel
            | none => none
          else readQuoted mark (blanks.reverse ++ done) c' fuel
      else readQuoted mark (ch :: done) c.next fuel

/-- The line ends at the start of a block scalar and the deepest indentation among them. -/
def blockLeading (c : Cursor) (done : List Char) (deepest : Nat) : Nat → List Char × Nat × Cursor
  | 0 => (done.reverse, deepest, c)
  | fuel + 1 =>
    match c.rest with
    | ch :: _ =>
      if ch == ' ' then
        let c' := c.next
        blockLeading c' done (max deepest c'.column) fuel
      else if isLineEnd ch then blockLeading c.next (ch :: done) deepest fuel
      else (done.reverse, deepest, c)
    | [] => (done.reverse, deepest, c)

/-- The line ends between lines of a block scalar, up to the given column of the next line. -/
def blockBreaks (indent : Nat) (c : Cursor) (done : List Char) : Nat → List Char × Cursor
  | 0 => (done.reverse, c)
  | fuel + 1 =>
    let spaces := ((c.rest.takeWhile (· == ' ')).take (indent - c.column)).length
    let c := c.advance spaces
    match c.rest with
    | ch :: _ =>
      if isLineEnd ch then blockBreaks indent c.next (ch :: done) fuel else (done.reverse, c)
    | [] => (done.reverse, c)

/-- The lines of a block scalar: the text so far, the last line end and the breaks after it. -/
def blockLines (folded : Bool) (indent : Nat) (done : List Char) (last : List Char)
    (breaks : List Char) (c : Cursor) : Nat → List Char × List Char × List Char × Cursor
  | 0 => (done, last, breaks, c)
  | fuel + 1 =>
    if c.column != indent || c.rest.isEmpty then (done, last, breaks, c)
    else
      let startsText := !(c.rest.head?.any (fun d => d == ' ' || d == '\t'))
      let run := c.rest.takeWhile (fun d => !isLineEnd d)
      let done := done ++ breaks ++ run
      let c := c.advance run.length
      let (last, c) : List Char × Cursor := match c.rest with
        | ch :: _ => ([ch], c.next)
        | [] => ([], c)
      let (breaks, c) := blockBreaks indent c [] (c.rest.length + 1)
      if c.column == indent && !c.rest.isEmpty then
        let nextText := !(c.rest.head?.any (fun d => d == ' ' || d == '\t'))
        let joint :=
          if folded && last == ['\n'] && startsText && nextText then
            if breaks.isEmpty then [' '] else []
          else last
        blockLines folded indent (done ++ joint) last breaks c fuel
      else (done, last, breaks, c)

/-- The header of a block scalar: how its end is chomped and its extra indentation. -/
def blockHeader (cs : List Char) : Option (Option Bool × Option Nat × Nat) :=
  let chomp? (c : Char) : Option Bool :=
    if c == '+' then some true else if c == '-' then some false else none
  let digit? (c : Char) : Option Nat :=
    if c.isDigit && c != '0' then some (c.toNat - 48) else none
  match cs with
  | a :: b :: _ =>
    match chomp? a, digit? b, digit? a, chomp? b with
    | some k, some d, _, _ => some (some k, some d, 2)
    | some k, none, _, _ => some (some k, none, 1)
    | _, _, some d, some k => some (some k, some d, 2)
    | _, _, some d, none => some (none, some d, 1)
    | _, _, _, _ => if a == '0' then none else some (none, none, 0)
  | [a] =>
    match chomp? a, digit? a with
    | some k, _ => some (some k, none, 1)
    | _, some d => some (none, some d, 1)
    | _, _ => some (none, none, 0)
  | [] => some (none, none, 0)

/-- A block scalar after its first sign. -/
def readBlockScalar (folded : Bool) (parent : Int) (c : Cursor) : Option (String × Cursor) := do
  let (keep, extra, width) ← blockHeader c.rest
  let c := (c.advance width).skipWhere (· == ' ')
  let c := match c.rest with
    | '#' :: _ => c.skipWhere (fun ch => !isLineEnd ch)
    | _ => c
  let c ← match c.rest with
    | [] => some c
    | ch :: _ => if isLineEnd ch then some c.next else none
  let least := (max 1 (parent + 1)).toNat
  let fuel := c.rest.length + 1
  let (breaks, indent, c) : List Char × Nat × Cursor := match extra with
    | none =>
      let (breaks, deepest, c) := blockLeading c [] 0 fuel
      (breaks, max least deepest, c)
    | some d =>
      let indent := least + d - 1
      let (breaks, c) := blockBreaks indent c [] fuel
      (breaks, indent, c)
  let (done, last, breaks, c) := blockLines folded indent [] [] breaks c fuel
  let done := if keep == some false then done else done ++ last
  let done := if keep == some true then done ++ breaks else done
  some (String.ofList done, c)

/-- The name after the sign of an anchor or an alias. -/
def readName (c : Cursor) : Option (String × Cursor) :=
  let run := c.rest.takeWhile (fun d => d.isAlphanum || d == '-' || d == '_')
  let after := c.advance run.length
  let ends := atBlank after.rest ||
    after.rest.head?.any (fun d => "?:,]\x7d%@\x60".toList.contains d)
  if run.isEmpty || !ends then none else some (String.ofList run, after)

/-- The properties before a node, and where the node begins. -/
def readProperties (p : Properties) (c : Cursor) : Nat → Option (Properties × Cursor)
  | 0 => none
  | fuel + 1 =>
    match c.rest with
    | '&' :: _ =>
      if p.anchor.isSome then none
      else do
        let (name, c) ← readName c.next
        readProperties { p with anchor := some name } c.token fuel
    | '!' :: _ =>
      if p.type.isSome then none
      else
        let run := c.rest.takeWhile (fun d => !(d == ' ' || d == '\t' || isLineEnd d ||
          ",[]\x7b\x7d".toList.contains d))
        readProperties { p with type := some (String.ofList run) } (c.advance run.length).token fuel
    | _ => some (p, c)

mutual

/-- A flow node at the start of a token. -/
def readFlow (fuel : Nat) (c : Cursor) : Option (Value × Cursor) :=
  match fuel with
  | 0 => none
  | fuel + 1 => do
    let (p, start) ← readProperties {} c (c.rest.length + 1)
    match start.rest with
    | ch :: _ =>
      if (p.anchor.isSome || p.type.isSome) && ",]\x7d".toList.contains ch then
        let v ← scalarValue? p.type "" true
        some (v, start.name p v)
      else
        let (node, after) ← readInline fuel true (-1) start
        let v ← inlineValue? p node
        some (v, after.name p v)
    | [] => none

/-- A scalar, an alias or a flow collection. -/
def readInline (fuel : Nat) (flow : Bool) (indent : Int) (c : Cursor) : Option (Inline × Cursor) :=
  match fuel with
  | 0 => none
  | fuel + 1 =>
    match c.rest with
    | [] => none
    | ch :: _ =>
      if ch == '*' then do
        let (name, after) ← readName c.next
        let v ← after.anchors.lookup name
        some (.value v, after)
      else if ch == '\x22' || ch == '\x27' then do
        let (done, after) ← readQuoted ch [] c.next (c.rest.length + 1)
        some (.scalar (String.ofList done.reverse) false, after)
      else if ch == '[' then do
        let (items, after) ← readFlowItems fuel true [] c.next.token
        some (.value (.list items), after)
      else if ch == '\x7b' then do
        let (entries, after) ← readFlowEntries fuel true [] c.next.token
        let v ← mapping? entries
        some (.value v, after)
      else if startsPlain flow c.rest then
        let (done, after) := readPlain flow (indent + 1) [] [] c (c.rest.length + 1)
        some (.scalar (String.ofList done) true, after)
      else none

/-- The entry of a mapping for a key and its value. -/
def readFlowPair (fuel : Nat) (p : Properties) (key : Inline) (c : Cursor) :
    Option (Entry × Cursor) :=
  match fuel with
  | 0 => none
  | fuel + 1 => do
    let after := c.next.token
    let (v, after) ← match after.rest with
      | ch :: _ =>
        if ",]\x7d".toList.contains ch then some (Value.null, after) else readFlow fuel after
      | [] => none
    match key with
    | .scalar "<<" true => some (.merge v, after)
    | key =>
      let k ← inlineValue? p key
      some (.pair k v, after.name p k)

/-- The items of a flow sequence up to its bracket. -/
def readFlowItems (fuel : Nat) (first : Bool) (done : List Value) (c : Cursor) :
    Option (List Value × Cursor) :=
  match fuel with
  | 0 => none
  | fuel + 1 =>
    match c.rest with
    | ']' :: _ => some (done.reverse, c.next)
    | [] => none
    | ch :: _ => do
      let c ← if first then some c else if ch == ',' then some c.next.token else none
      match c.rest with
      | ']' :: _ => some (done.reverse, c.next)
      | _ =>
        let explicit := c.rest.head? == some '?'
        let c := if explicit then c.next.token else c
        let (p, start) ← readProperties {} c (c.rest.length + 1)
        let (node, after) ← readInline fuel true (-1) start
        let after := after.token
        if after.atValueSign true && (explicit || after.line == start.line) then
          let (entry, after) ← readFlowPair fuel p node after
          let v ← mapping? [entry]
          readFlowItems fuel false (v :: done) after.token
        else
          let v ← inlineValue? p node
          let v ← if explicit then mapping? [.pair v .null] else some v
          readFlowItems fuel false (v :: done) ((after.name p v).token)

/-- The entries of a flow mapping up to its brace. -/
def readFlowEntries (fuel : Nat) (first : Bool) (done : List Entry) (c : Cursor) :
    Option (List Entry × Cursor) :=
  match fuel with
  | 0 => none
  | fuel + 1 =>
    match c.rest with
    | '\x7d' :: _ => some (done.reverse, c.next)
    | [] => none
    | ch :: _ => do
      let c ← if first then some c else if ch == ',' then some c.next.token else none
      match c.rest with
      | '\x7d' :: _ => some (done.reverse, c.next)
      | _ =>
        let explicit := c.rest.head? == some '?'
        let c := if explicit then c.next.token else c
        let (p, start) ← readProperties {} c (c.rest.length + 1)
        let (node, after) ← readInline fuel true (-1) start
        let after := after.token
        if after.atValueSign true && (explicit || after.line == start.line) then
          let (entry, after) ← readFlowPair fuel p node after
          readFlowEntries fuel false (entry :: done) after.token
        else
          let k ← inlineValue? p node
          readFlowEntries fuel false (.pair k .null :: done) ((after.name p k).token)

end

mutual

/-- A block node whose first token is at the cursor, inside a collection at column `indent`. Keys
are admitted where a line, or an entry of a sequence, begins. -/
def readBlock (fuel : Nat) (indent : Int) (keys : Bool) (c : Cursor) : Option (Value × Cursor) :=
  match fuel with
  | 0 => none
  | fuel + 1 => do
    let (p, start) ← readProperties {} c (c.rest.length + 1)
    let moved := start.line != c.line
    let keys := keys || moved
    if start.atEnd || (moved && (start.column : Int) ≤ indent) then
      let v ← scalarValue? p.type "" true
      some (v, start.name p v)
    else if start.atEntry then
      if !keys || (start.column != c.column && !moved) then none
      else
        let (items, after) ← readSequence fuel start.column [] start
        some (.list items, after.name p (.list items))
    else if start.atExplicitKey then
      if !keys then none
      else
        let (v, after) ← readMapping fuel start.column start
        some (v, after.name p v)
    else match start.rest with
      | '|' :: _ =>
        let (s, after) ← readBlockScalar false indent start.next
        let v ← scalarValue? p.type s false
        some (v, after.name p v)
      | '>' :: _ =>
        let (s, after) ← readBlockScalar true indent start.next
        let v ← scalarValue? p.type s false
        some (v, after.name p v)
      | _ =>
        let (node, after) ← readInline fuel false indent start
        let sign := after.skipWhere (· == ' ')
        if sign.atValueSign false && sign.line == start.line then
          if !keys then none
          else if moved then
            -- the properties on the line before belong to the mapping
            let (v, after) ← readMapping fuel start.column start
            some (v, after.name p v)
          else readMapping fuel c.column c
        else
          let v ← inlineValue? p node
          some (v, after.name p v)

/-- The entries of a block sequence whose signs stand at a column. -/
def readSequence (fuel : Nat) (column : Nat) (done : List Value) (c : Cursor) :
    Option (List Value × Cursor) :=
  match fuel with
  | 0 => none
  | fuel + 1 => do
    let start := c.next.token
    let (v, after) ←
      if start.atEnd || (start.line != c.line && start.column ≤ column) then
        some (Value.null, start)
      else readBlock fuel column true start
    let ended := after.fresh
    let after := after.token
    if after.atEnd then some ((v :: done).reverse, after)
    else if !(ended || after.fresh) then none
    else if after.column == column && after.atEntry then readSequence fuel column (v :: done) after
    else if after.column ≤ column then some ((v :: done).reverse, after)
    else none

/-- A block mapping whose keys stand at a column. -/
def readMapping (fuel : Nat) (column : Nat) (c : Cursor) : Option (Value × Cursor) :=
  match fuel with
  | 0 => none
  | fuel + 1 => do
    let (entries, after) ← readEntries fuel column [] c
    let v ← mapping? entries
    some (v, after)

/-- The entries of a block mapping. -/
def readEntries (fuel : Nat) (column : Nat) (done : List Entry) (c : Cursor) :
    Option (List Entry × Cursor) :=
  match fuel with
  | 0 => none
  | fuel + 1 => do
    let (entry, after) ←
      if c.atExplicitKey then do
        let start := c.next.token
        let (k, after) ←
          if start.atEnd || (start.line != c.line && start.column ≤ column) then
            some (Value.null, start)
          else readBlock fuel column true start
        let sign := after.token
        if sign.column == column && sign.atValueSign false then
          let (v, after) ← readMappingValue fuel column true sign
          some (Entry.pair k v, after)
        else some (Entry.pair k .null, after)
      else do
        let (p, start) ← readProperties {} c (c.rest.length + 1)
        let (node, after) ← readInline fuel false column start
        let sign := after.skipWhere (· == ' ')
        if !(sign.atValueSign false && sign.line == c.line) then none
        else
          let key ← match node with
            | .scalar "<<" true => some none
            | node => (inlineValue? p node).map some
          let sign := match key with
            | some k => sign.name p k
            | none => sign
          let (v, after) ← readMappingValue fuel column false sign
          some (match key with
            | some k => Entry.pair k v
            | none => Entry.merge v, after)
    let ended := after.fresh
    let after := after.token
    if after.atEnd then some ((entry :: done).reverse, after)
    else if !(ended || after.fresh) then none
    else if after.column == column then
      if after.atEntry then some ((entry :: done).reverse, after)
      else readEntries fuel column (entry :: done) after
    else if after.column < column then some ((entry :: done).reverse, after)
    else none

/-- The value after the sign at the cursor; nothing when the next line is no deeper. -/
def readMappingValue (fuel : Nat) (column : Nat) (keys : Bool) (c : Cursor) :
    Option (Value × Cursor) :=
  match fuel with
  | 0 => none
  | fuel + 1 =>
    let start := c.next.token
    if start.atEnd then some (.null, start)
    else if start.line == c.line then readBlock fuel column keys start
    else if start.column > column then readBlock fuel column true start
    else if start.column == column then
      if start.atEntry then do
        let (items, after) ← readSequence fuel column [] start
        some (.list items, after)
      else if start.atExplicitKey || start.atValueSign false then some (.null, start)
      else do
        let (_, node) ← readProperties {} start (start.rest.length + 1)
        let (_, after) ← readInline fuel false column node
        if (after.skipWhere (· == ' ')).atValueSign false then some (.null, start)
        else readBlock fuel column false start
    else some (.null, start)

end

/-- Whether the character may stand in a document. -/
def isDocumentChar (c : Char) : Bool :=
  let n := c.toNat
  n == 9 || n == 10 || n == 13 || (0x20 ≤ n && n ≤ 0x7e) || n == 0x85 ||
    (0xa0 ≤ n && n ≤ 0xfffd) || 0x10000 ≤ n

/-- Write every plain line end as LF. -/
def plainEnds : List Char → List Char
  | [] => []
  | '\r' :: '\n' :: rest => '\n' :: plainEnds rest
  | c :: rest => (if c == '\r' || c.toNat == 0x85 then '\n' else c) :: plainEnds rest

/-- Pass over the directives before a document; the flag tells whether there were some. -/
def skipDirectives (c : Cursor) (some' : Bool) : Nat → Bool × Cursor
  | 0 => (some', c)
  | fuel + 1 =>
    match c.rest with
    | '%' :: _ =>
      if c.column == 0 then
        skipDirectives (c.skipWhere (fun ch => !isLineEnd ch)).token true fuel
      else (some', c)
    | _ => (some', c)

/-- The value of a text with at most one document; `none` when the text is refused. -/
def read? (s : String) : Option Value := do
  let cs := s.toList
  if !cs.all isDocumentChar then none
  let cs := plainEnds (match cs with
    | c :: rest => if c.toNat == 0xfeff then rest else c :: rest
    | [] => [])
  let fuel := 4 * cs.length + 16
  let c : Cursor := (Cursor.mk cs 0 0 true []).token
  let (directives, c) := skipDirectives c false (cs.length + 1)
  if c.rest.isEmpty then
    if directives then none else some .null
  else do
    let marked := c.atMark '-'
    if directives && !marked then none
    let c := if marked then c.advance 3 else c
    let start := c.token
    let (v, after) ←
      if start.atEnd then some (Value.null, start)
      else readBlock fuel (-1) (start.fresh || !marked) start
    let ended := after.fresh
    let after := after.token
    if after.rest.isEmpty then some v
    else if !(ended || after.fresh) then none
    else if after.atMark '.' then
      let rest := (after.advance 3).token
      if rest.rest.isEmpty then some v else none
    else none

end Formwork.Yaml
