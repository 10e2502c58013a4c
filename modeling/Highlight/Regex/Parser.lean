import Highlight.Regex.Callout
import Highlight.Regex.CharClass
import Highlight.Regex.Quantified

/-!
# `Highlight.Regex.Parser`: reading a pattern into a tree

`Syntax.read` reads a whole pattern. It yields the tree together with what the tree alone
does not show: the groups, and the references that have to be checked once all groups are
known.

The reader descends recursively through alternations, sequences and groups. It always holds
the token it has read last. Options set by a group such as `(?i)` hold up to the end of the
enclosing group, over any bars.
-/

set_option autoImplicit false

namespace Highlight.Regex

open Highlight.Unicode

/-- A pattern that has been read. -/
structure Syntax where
  /-- The tree. Its calls bear the position of their reference in `calls`. -/
  tree : Node
  groups : Groups
  /-- The references of the calls, in the order of the pattern, each as written -/
  calls : List (GroupRef × List Char)
  /-- Whether there is a back reference by number -/
  numberedBackref : Bool
  /-- The greatest number that a back reference names -/
  greatestBackref : Nat
  deriving DecidableEq, Repr

/-- What the reader knows about the pattern read so far. -/
structure ReaderState where
  /-- What is left of the pattern -/
  rest : List Char
  /-- The groups opened so far -/
  groups : Groups
  /-- The references of the calls so far -/
  calls : List (GroupRef × List Char)
  /-- Whether there was a back reference by number -/
  numberedBackref : Bool
  /-- The greatest number that a back reference named -/
  greatestBackref : Nat
  /-- Whether options for the whole pattern were set, and if so whether at its start -/
  wholeOptions : Option Bool
  /-- The number of callouts -/
  callouts : Nat

/-- A step of the reader. -/
abbrev Reader := StateT ReaderState (Except PatternError)

/-- Where an item stands. -/
inductive Place where
  /-- At the very start of the pattern -/
  | start
  /-- At the start of a group that does not count as a group -/
  | head
  /-- Anywhere else -/
  | inside
  deriving DecidableEq, Repr

/-- What a parenthesis opened. -/
inductive GroupItem where
  | node (n : Node)
  /-- A group that only groups -/
  | plain (n : Node)
  /-- Options for the rest of the enclosing group -/
  | options (o : Options)

namespace Reader

/-- The greatest number of nested parts. -/
def maxDepth : Nat := 4096

/-- The greatest number of groups. -/
def maxGroups : Nat := 32767

/-- Rejects the pattern. -/
def fail {α : Type} (e : PatternError) : Reader α :=
  throw e

/-- Reads the next token. -/
def token (o : Options) : Reader Token := do
  let st ← get
  let (t, rest) ← (Token.next o st.groups st.rest : Except PatternError _)
  set { st with rest := rest }
  return t

/-- Takes the next character if there is one. -/
def char? : Reader (Option Char) := do
  let st ← get
  match st.rest with
  | [] => return none
  | c :: r =>
    set { st with rest := r }
    return some c

/-- Takes the next character. The pattern is rejected if there is none. -/
def charOr (e : PatternError) : Reader Char := do
  match ← char? with
  | some c => return c
  | none => fail e

/-- The next character, which is not taken. -/
def peek : Reader (Option Char) := do
  return (← get).rest.head?

/-- Goes on with other text. -/
def goOn (rest : List Char) : Reader Unit :=
  modify fun st => { st with rest := rest }

/-- Opens a group, and yields its number. -/
def openGroup (name : Option (List Char)) : Reader Nat := do
  let st ← get
  if maxGroups ≤ st.groups.count then fail .tooManyGroups
  let groups := match name with
    | none => st.groups.openPlain
    | some n => st.groups.openNamed n
  set { st with groups := groups }
  return groups.count

/-- Counts a callout, and yields its number. -/
def countCallout : Reader Nat := do
  let st ← get
  set { st with callouts := st.callouts + 1 }
  return st.callouts

/-- Notes a back reference. -/
def noteBackref (groups : List Nat) (byName : Bool) : Reader Unit :=
  modify fun st => { st with
    numberedBackref := st.numberedBackref || !byName
    greatestBackref := groups.foldl max st.greatestBackref }

/-- Notes that options for the whole pattern are set. They can be set once. -/
def noteWholeOptions (place : Place) : Reader Unit := do
  let st ← get
  if st.wholeOptions.isSome then fail .misplacedGroupOption
  set { st with wholeOptions := some (place == Place.start) }

/-- The nodes of the alternative spellings of more than one character that a class has once
case does not count. A negated class has none. -/
def longSpellings (c : CharClass) : List Node :=
  if c.negated then []
  else
    CaseMap.longFolds.toList.filterMap fun entry =>
      if (CharSet.folded c.members).mem entry.1 then
        some (.ofSeq (entry.2.map fun d => .set (.folded (.range d d))))
      else none

/-- The node of a character class. -/
def classNode (o : Options) (c : CharClass) : Node :=
  if o.ignoreCase then
    .ofAlts (.set (.negateIf c.negated (.folded c.members)) :: longSpellings c)
  else .set c.toSet

/-- Reads what `\X` matches, between braces: grapheme clusters or words. It has no effect. -/
def segmentMode : Reader Unit := do
  match ← peek with
  | none => fail .endInGroup
  | some '{' =>
    let _ ← charOr .endInGroup
    let mode ← charOr .endInGroup
    if mode ≠ 'g' ∧ mode ≠ 'w' then fail .unknownGroupOption
    let close ← charOr .endInGroup
    if close ≠ '}' then fail .unknownGroupOption
  | some _ => fail .unknownGroupOption

/-- Reads the options after `(?` up to the closing parenthesis or the colon. `c` is the
character in hand. -/
def options (place : Place) (negative whole : Bool) : Nat → Char → Options →
    Reader (Bool × Options)
  | 0, _, _ => fail .tooDeep
  | fuel + 1, c, o => do
    let next (negative whole : Bool) (o : Options) : Reader (Bool × Options) := do
      let d ← charOr .endInGroup
      options place negative whole fuel d o
    match c with
    | ')' =>
      if whole then noteWholeOptions place
      return (false, o)
    | ':' => if whole then fail .misplacedGroupOption else return (true, o)
    | '-' => next true whole o
    | 'x' => next negative whole { o with extended := !negative }
    | 'i' => next negative whole { o with ignoreCase := !negative }
    | 'm' => next negative whole { o with dotAll := !negative }
    | 'W' => next negative whole { o with wordAscii := !negative }
    | 'D' => next negative whole { o with digitAscii := !negative }
    | 'S' => next negative whole { o with spaceAscii := !negative }
    | 'P' => next negative whole { o with posixAscii := !negative }
    | 'I' => if negative then fail .misplacedGroupOption else next negative true o
    | 'L' => if negative then fail .misplacedGroupOption else next negative true o
    | 'C' =>
      if negative then fail .misplacedGroupOption
      else next negative true { o with plainGroups := true }
    | 'y' =>
      if negative then fail .unknownGroupOption
      segmentMode
      next negative whole o
    | _ => fail .unknownGroupOption

/-- The groups that a test of groups names. -/
def referredGroups (target : Referent) (written : List Char) : Reader (List Nat) := do
  match target with
  | .name name =>
    match (← get).groups.find name with
    | [] => fail (.unknownName written)
    | groups =>
      noteBackref groups true
      return groups
  | .absolute n =>
    if n = 0 then fail .unknownBackref
    noteBackref [n] false
    return [n]
  | .relative n =>
    let k := (← get).groups.relative n
    if k ≤ 0 then fail .unknownBackref
    noteBackref [k.toNat] false
    return [k.toNat]

/-- Takes a closing parenthesis. -/
def closing : Reader Unit := do
  let close ← charOr .endInGroup
  if close ≠ ')' then fail .endInGroup

/-- The test of a conditional that begins with a reference. Yields nothing if the text is no
reference, in which case it is an ordinary pattern. -/
def referenceTest (c : Char) : Reader (Option Node) := do
  let st ← get
  let enclosed := c == '<' || c == '\''
  let opener := if enclosed then c else '('
  let s := if enclosed then st.rest else c :: st.rest
  match referredName (nameEnd opener) s with
  | .error e => if enclosed then fail e else return none
  | .ok (target, written, level, rest) =>
    goOn rest
    let groups ← referredGroups target written
    if enclosed then closing
    return some (.isSet groups level)

/-- The nodes of a run of plain characters. Yields them with the token after the run. -/
def plainRun (o : Options) : Nat → List Char → Reader (List Char × Token)
  | 0, _ => fail .tooDeep
  | fuel + 1, acc => do
    match ← token o with
    | .char c => plainRun o fuel (c :: acc)
    | t => return (acc.reverse, t)

/-- The node of a character written by its bytes. Yields it with the token after it. -/
def byteRun (o : Options) (first : Nat) : Reader (Node × Token) := do
  let rec more : Nat → Reader (List Nat)
    | 0 => return []
    | k + 1 => do
      match ← token o with
      | .byte b =>
        let rest ← more k
        return b :: rest
      | _ => fail .truncatedBytes
  let bs ← more (byteCount first - 1)
  let t ← token o
  if isContinuation first || !bs.all isContinuation then fail .codePoint
  match bytesToChar? (first :: bs) with
  | some c => return (.literal [c] o.ignoreCase, t)
  | none => return (.impossible, t)

/-- The node of a token that is a whole item by itself. -/
def simpleItem (o : Options) : Token → Reader (Option Node)
  | .code n =>
    match codeToChar? n with
    | some c => return some (.literal [c] o.ignoreCase)
    | none => return some .impossible
  | .dot => return some (.set (if o.dotAll then .all else .notNewline))
  | .notNewline => return some (.set .notNewline)
  | .everything => return some (.set .all)
  | .lineBreak => return some .lineBreak
  | .cluster => return some .cluster
  | .keep => return some .keep
  | .anchor a => return some (.anchor a)
  | .property p negated => return some (.set (o.propertySet p negated))
  | .namedProperty p negated =>
    return some (classNode o ⟨negated, o.propertySet p false⟩)
  | .backref groups byName level => do
    noteBackref groups byName
    return some (.backref groups o.ignoreCase level)
  | .call ref written => do
    let st ← get
    set { st with calls := st.calls ++ [(ref, written)] }
    return some (.call st.calls.length)
  | .openClass => do
    let st ← get
    let (c, rest) ← (CharClass.read o st.rest : Except PatternError _)
    goOn rest
    return some (classNode o c)
  | _ => return none

/-- Reads the quantifiers after an item. `front` stands before the item, `grouped` says that
the item was the content of a group, and `wrapped` that it was a group of its own. Yields
the nodes with the token after them. -/
def quantifiers (o : Options) : Nat → List Node → Node → Bool → Bool → Token →
    Reader (List Node × Token)
  | 0, _, _, _, _, _ => fail .tooDeep
  | fuel + 1, front, target, grouped, wrapped, t =>
    match t with
    | .quantifier q => do
      if !wrapped && target.isUnrepeatable then fail .unrepeatable
      let close (n : Node) : Node := if q.possessive then .atomic n else n
      let next ← token o
      match quantify ⟨q.least, q.most, q.greedy⟩ target grouped with
      | .same => quantifiers o fuel front target false false next
      | .whole n => quantifiers o fuel front (close n) false false next
      | .split init last =>
        quantifiers o fuel (front ++ [init]) (close last) false false next
    | _ => return (front ++ [target], t)

/-- Reads a named callout after `(*`. -/
def callout : Reader Node := do
  let k ← countCallout
  let (n, rest) ← (Callout.named k (← get).rest : Except PatternError _)
  goOn rest
  return n

/-- Reads foreign text after `(?{`. -/
def foreignText : Reader Node := do
  let k ← countCallout
  let rest ← (Callout.foreign (← get).rest : Except PatternError _)
  goOn rest
  return .checkpoint k none

section Group

variable (o : Options) (body : Options → Place → Reader (List Node))

/-- Opens a capturing group and reads it. In this section, `body` reads the alternatives of a
group under its options, up to the closing parenthesis. -/
def capture (name : Option (List Char)) : Reader GroupItem := do
  let k ← openGroup name
  let ns ← body o .inside
  return .node (.capture k (.ofAlts ns))

/-- Reads a group whose name comes next, up to a closing character. -/
def namedGroup (close : Char) : Reader GroupItem := do
  let (name, rest) ← (definedName close (← get).rest : Except PatternError _)
  goOn rest
  capture o body (some name)

/-- Reads a look-behind, or a group with a name, after `(?<`. -/
def behindOrNamed : Reader GroupItem := do
  match ← peek with
  | none => fail .unclosedGroup
  | some '=' =>
    let _ ← charOr .endInGroup
    return .node (.behind true ⟨0, some 0⟩ (.ofAlts (← body o .inside)))
  | some '!' =>
    let _ ← charOr .endInGroup
    return .node (.behind false ⟨0, some 0⟩ (.ofAlts (← body o .inside)))
  | some _ => namedGroup o body '>'

/-- Reads what must not occur after `(?~`. -/
def absence : Reader GroupItem := do
  match ← peek with
  | none => fail .unclosedGroup
  | some '|' =>
    let _ ← charOr .endInGroup
    match ← peek with
    | none => fail .unclosedGroup
    | some ')' =>
      let _ ← charOr .endInGroup
      return .node .absentClear
    | some _ =>
      match ← body o .head with
      | [n] => return .node (.absentCut n)
      | n :: ns => return .node (.absentIn n (.ofAlts ns))
      | [] => return .node .absentClear
  | some _ => return .node (.absent (.ofAlts (← body o .head)))

/-- Reads a test that is an ordinary pattern, which begins with `c`. -/
def ordinaryTest (c : Char) : Reader Node := do
  modify fun st => { st with rest := c :: st.rest }
  return .ofAlts (← body o .inside)

/-- Reads the test of a conditional, which begins with `c`. Says whether it is a reference. -/
def conditionTest (c : Char) : Reader (Node × Bool) := do
  if c.isDigit || c == '-' || c == '+' || c == '<' || c == '\'' then
    match ← referenceTest c with
    | some n => return (n, true)
    | none => return (← ordinaryTest o body c, false)
  else if c == '*' then return (← callout, false)
  else if c == '?' && (← peek) == some '{' then
    let _ ← charOr .endInGroup
    return (← foreignText, false)
  else return (← ordinaryTest o body c, false)

/-- Reads a conditional after `(?(`. -/
def conditional : Reader GroupItem := do
  let c ← charOr .endInGroup
  if (← peek).isNone then fail .endInGroup
  let (test, isReference) ← conditionTest o body c
  match ← peek with
  | none => fail .endInGroup
  | some ')' =>
    if !isReference then fail .conditional
    let _ ← charOr .endInGroup
    return .node test
  | some '|' =>
    let _ ← charOr .endInGroup
    return .node (.cond test .empty (.ofAlts (← body o .head)))
  | some _ =>
    match ← body o .head with
    | [] => return .node (.cond test .empty .empty)
    | [n] => return .node (.cond test n .empty)
    | n :: ns => return .node (.cond test n (.ofAlts ns))

/-- Reads what begins with `(?`. -/
def special (fuel : Nat) (place : Place) : Reader GroupItem := do
  let c ← charOr .endInGroup
  match c with
  | ':' => return .plain (.ofAlts (← body o .inside))
  | '=' => return .node (.ahead true (.ofAlts (← body o .inside)))
  | '!' => return .node (.ahead false (.ofAlts (← body o .inside)))
  | '>' => return .node (.atomic (.ofAlts (← body o .inside)))
  | '\'' => namedGroup o body '\''
  | '<' => behindOrNamed o body
  | '~' => absence o body
  | '{' => return .node (← foreignText)
  | '(' => conditional o body
  | _ =>
    let (hasBody, inner) ← options place false false fuel c o
    if hasBody then return .node (.scope (.ofAlts (← body inner .inside)))
    else return .options inner

/-- Reads what an opening parenthesis opens. -/
def opened (fuel : Nat) (place : Place) : Reader GroupItem := do
  match ← peek with
  | none => fail .unclosedGroup
  | some '*' =>
    let _ ← charOr .endInGroup
    return .node (← callout)
  | some '?' =>
    let _ ← charOr .endInGroup
    special o body fuel place
  | some _ =>
    if o.plainGroups then return .plain (.ofAlts (← body o .inside))
    else capture o body none

end Group

mutual

/-- Reads alternatives up to the end of the group, or of the pattern. `t` is the token in
hand. Yields the alternatives; the token that ends them has been read. -/
def alternatives (o : Options) (inGroup : Bool) :
    Nat → Nat → Place → Token → Reader (List Node)
  | 0, _, _, _ => fail .tooDeep
  | fuel + 1, depth, place, t => do
    if maxDepth ≤ depth then fail .tooDeep
    let (n, t) ← branch o inGroup fuel (depth + 1) place t
    match t with
    | .bar =>
      let t ← token o
      let rest ← alternatives o inGroup fuel depth .inside t
      return n :: rest
    | .closeGroup => return [n]
    | _ => if inGroup then fail .unclosedGroup else return [n]
termination_by structural fuel => fuel

/-- Reads the items of one alternative. Yields the token after it. -/
def branch (o : Options) (inGroup : Bool) :
    Nat → Nat → Place → Token → Reader (Node × Token)
  | 0, _, _, _ => fail .tooDeep
  | fuel + 1, depth, place, t => do
    if maxDepth ≤ depth then fail .tooDeep
    let (ns, t) ← items o inGroup fuel (depth + 1) place [] t
    return (.ofSeq (Node.joinLiterals ns), t)
termination_by structural fuel => fuel

/-- Reads the rest of the items of an alternative. -/
def items (o : Options) (inGroup : Bool) :
    Nat → Nat → Place → List Node → Token → Reader (List Node × Token)
  | 0, _, _, _, _ => fail .tooDeep
  | fuel + 1, depth, place, acc, t => do
    let (ns, t) ← item o inGroup fuel depth place t
    let acc := acc ++ ns
    match t with
    | .bar | .stop => return (acc, t)
    | .closeGroup => if inGroup then return (acc, t) else fail .unopenedGroup
    | _ => items o inGroup fuel depth .inside acc t
termination_by structural fuel => fuel

/-- Reads one item with its quantifiers. -/
def item (o : Options) (inGroup : Bool) :
    Nat → Nat → Place → Token → Reader (List Node × Token)
  | 0, _, _, _ => fail .tooDeep
  | fuel + 1, depth, place, t => do
    match t with
    | .bar | .stop => return ([.empty], t)
    | .closeGroup => if inGroup then return ([.empty], t) else fail .unopenedGroup
    | .quantifier _ => fail .nothingToRepeat
    | .char c =>
      let (cs, t) ← plainRun o (fuel + 1) [c]
      quantifiers o (fuel + 1) [] (.literal cs o.ignoreCase) false false t
    | .byte b =>
      let (n, t) ← byteRun o b
      quantifiers o (fuel + 1) [] n false false t
    | .openGroup =>
      match ← group o fuel depth place with
      | .node n =>
        let t ← token o
        quantifiers o (fuel + 1) [] n false false t
      | .plain n =>
        let t ← token o
        quantifiers o (fuel + 1) [] n true (place != .head) t
      | .options o' =>
        let t ← token o'
        let ns ← alternatives o' inGroup fuel depth .inside t
        -- The token that ended the alternatives ends the enclosing ones as well.
        return ([.scope (.ofAlts ns)], if inGroup then .closeGroup else .stop)
    | _ =>
      match ← simpleItem o t with
      | some n =>
        let t ← token o
        quantifiers o (fuel + 1) [] n false false t
      | none => fail .nothingToRepeat
termination_by structural fuel => fuel

/-- Reads what an opening parenthesis opens, with its alternatives. -/
def group (o : Options) : Nat → Nat → Place → Reader GroupItem
  | 0, _, _ => fail .tooDeep
  | fuel + 1, depth, place =>
    let body (o : Options) (place : Place) : Reader (List Node) := do
      let t ← token o
      alternatives o true fuel depth place t
    opened o body (fuel + 1) place
termination_by structural fuel => fuel

end

end Reader

namespace Syntax

/-- Reads a whole pattern. -/
def read (pattern : List Char) : Except PatternError Syntax :=
  let start : ReaderState := ⟨pattern, .none, [], false, 0, none, 0⟩
  let reader : Reader Node := do
    let t ← Reader.token .initial
    let ns ← Reader.alternatives .initial false (8 * pattern.length + 64) 0 .start t
    if (← get).wholeOptions = some false then Reader.fail .misplacedGroupOption
    return .ofAlts ns
  match reader.run start with
  | .error e => .error e
  | .ok (tree, st) =>
    .ok ⟨tree, st.groups, st.calls, st.numberedBackref, st.greatestBackref⟩

end Syntax

end Highlight.Regex
