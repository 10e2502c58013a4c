import Highlight.Regex.Program
import Highlight.Unicode.Grapheme

/-!
# `Highlight.Regex.Machine`: backtracking search for a match

The machine works on a *situation*: the frames still to be matched, the state reached, and
the choices left open. `step` yields the ways to do what one frame asks for, and `run` goes on
until

* no frame is left: the state is a match (`Outcome.matched`),
* no way and no choice is left: there is no match (`Outcome.failed`),
* the attempt has been given up (`Outcome.abandoned`), or
* there is no answer, because the fuel is used up or because the pattern breaks off the search
  (`Outcome.exhausted`).

A way or a choice is a list of frames with the state in which they are to be done. The first way
is always taken first, the others become choices, and the latest choice is the first to be taken
back, so the match found is the first one in the order of the pattern.

Look-arounds, atomic groups and conditions run a machine of their own on their body, with no
choice left open, and keep its first match only.

What the groups have matched is not stored but read off the *trace* of a state, the list of
events on the way to it. Taking back a choice thereby forgets what was matched since.
-/

set_option autoImplicit false

namespace Highlight.Regex

open Highlight.Unicode

/-- Something to be remembered about the way to a state. -/
inductive Event where
  /-- A group was entered at a position -/
  | opened (group start : Nat)
  /-- A group that was entered at `start` was left at `stop` -/
  | closed (group start stop : Nat)
  /-- A call began -/
  | called
  /-- A call ended -/
  | returned
  deriving DecidableEq, Repr

/-- A state of the machine. -/
structure State where
  /-- The position in the text -/
  pos : Nat
  /-- The position beyond which nothing can be consumed -/
  limit : Nat
  /-- Where the reported match begins -/
  start : Nat
  /-- The events so far, the latest first -/
  trace : List Event
  /-- The number of calls that have begun and not ended -/
  depth : Nat
  /-- How often each counter has been passed -/
  counts : List (Nat × Nat)
  deriving DecidableEq, Repr

/-- Something still to be done. -/
inductive Frame where
  /-- Match a node -/
  | node (n : Node)
  /-- Leave a group that was entered at a position -/
  | close (group start : Nat)
  /-- End a call -/
  | ret
  /-- End one round of a loop that can go on forever. The round began at a position, with a
  trace. -/
  | round (body : Node) (greedy : Bool) (start : Nat) (trace : List Event)
  /-- Set the limit -/
  | limit (n : Nat)
  /-- Succeed at a position only -/
  | expect (pos : Nat)
  /-- Continue here, or at any position down to another one -/
  | shrink (least : Nat)

/-- A choice left open. -/
abbrev Choice := List Frame × State

/-- How a run of the machine ends. -/
inductive Outcome where
  | matched (st : State)
  /-- Without a match -/
  | failed
  /-- Given up by the pattern -/
  | abandoned
  /-- Without an answer: for lack of fuel, or broken off by the pattern -/
  | exhausted

/-- The ways to do what a frame asks for. -/
inductive Ways where
  /-- What is to be done in place of the frame, the first way first. Without any way, the latest
  choice is taken back. -/
  | go (ways : List Choice)
  /-- The pattern gives up the attempt -/
  | abandoned
  /-- The fuel does not suffice, or the pattern breaks off the search -/
  | exhausted

namespace Ways

/-- No way. -/
def back : Ways := .go []

/-- A single way: the frame has been done. -/
def done (st : State) : Ways := .go [([], st)]

/-- A single way. -/
def next (frames : List Frame) (st : State) : Ways := .go [(frames, st)]

end Ways

/-- What a machine works with. -/
structure Setting where
  /-- The pattern -/
  program : Program
  text : Array Char
  /-- The position where the search began -/
  searchStart : Nat

namespace State

/-- Where a group was entered last, read off a trace. -/
def startIn (g : Nat) : List Event → Option Nat
  | [] => none
  | .opened h s :: rest => if h = g then some s else startIn g rest
  | .closed h s _ :: rest => if h = g then some s else startIn g rest
  | _ :: rest => startIn g rest

/-- Where a group was left last, read off a trace. -/
def stopIn (g : Nat) : List Event → Option Nat
  | [] => none
  | .closed h _ e :: rest => if h = g then some e else stopIn g rest
  | _ :: rest => stopIn g rest

/-- What a group has matched. -/
def span? (st : State) (g : Nat) : Option (Nat × Nat) :=
  match startIn g st.trace, stopIn g st.trace with
  | some s, some e => some (s, e)
  | _, _ => none

/-- What one of the groups has matched at a level of recursion, counted from the current one.
`stop` is the end of a group that has been passed on the way back. -/
def spanAtLevel (groups : List Nat) (level : Int) :
    Int → Option Nat → List Event → Option (Nat × Nat)
  | _, _, [] => none
  | at', stop, .called :: rest => spanAtLevel groups level (at' - 1) stop rest
  | at', stop, .returned :: rest => spanAtLevel groups level (at' + 1) stop rest
  | at', stop, .opened g s :: rest =>
    if at' = level ∧ groups.contains g then
      match stop with
      | some e => some (s, e)
      | none => spanAtLevel groups level at' stop rest
    else spanAtLevel groups level at' stop rest
  | at', stop, .closed g _ e :: rest =>
    if at' = level ∧ groups.contains g then spanAtLevel groups level at' (some e) rest
    else spanAtLevel groups level at' stop rest

/-- How often a counter has been passed. -/
def passed (st : State) (counter : Nat) : Nat :=
  match st.counts.find? fun entry => entry.1 == counter with
  | some (_, k) => k
  | none => 0

/-- Passes a counter once more. -/
def count (st : State) (counter : Nat) : State :=
  let others := st.counts.filter fun entry => entry.1 != counter
  { st with counts := (counter, st.passed counter + 1) :: others }

/-- Records an event. -/
def record (st : State) (e : Event) : State :=
  { st with trace := e :: st.trace }

end State

namespace Setting

/-- Whether the character at a position can be part of a word. -/
def isWordAt (s : Setting) (asciiOnly : Bool) (i : Nat) : Bool :=
  match s.text[i]? with
  | some c => (!asciiOnly || decide (c.toNat < 0x80)) && Property.isWordPart c.toNat
  | none => false

/-- Whether an anchor holds at a position. -/
def holds (s : Setting) (a : Anchor) (i : Nat) : Bool :=
  match a with
  | .textStart => i == 0
  | .textEnd => i == s.text.size
  | .lastLineEnd => i == s.text.size || (i + 1 == s.text.size && s.text[i]? == some '\n')
  | .lineStart => i == 0 || (i != s.text.size && s.text[i - 1]? == some '\n')
  | .lineEnd => i == s.text.size || s.text[i]? == some '\n'
  | .searchStart => i == s.searchStart
  | .wordEdge negated asciiOnly =>
    let before := i != 0 && s.isWordAt asciiOnly (i - 1)
    (before != s.isWordAt asciiOnly i) != negated
  | .clusterEdge negated => isClusterEdge s.text i != negated

/-- The end of a string that is matched exactly. -/
def literalEnd (s : Setting) (limit : Nat) : List Char → Nat → Option Nat
  | [], i => some i
  | c :: cs, i =>
    if i < limit ∧ s.text[i]? = some c then literalEnd s limit cs (i + 1) else none

/-- The end of a text whose folding is the given sequence. -/
def foldedEnd (s : Setting) (limit : Nat) : Nat → List Nat → Nat → Option Nat
  | _, [], i => some i
  | 0, _, _ => none
  | fuel + 1, target, i =>
    if i < limit then
      match s.text[i]? with
      | none => none
      | some c =>
        let f := fold c.toNat
        if f.isPrefixOf target then foldedEnd s limit fuel (target.drop f.length) (i + 1)
        else none
    else none

/-- The end of a repetition of the text from `i` to `stop` at `j`. -/
def repeatedEnd (s : Setting) (folding : Bool) (limit : Nat) : Nat → Nat → Nat → Option Nat
  | 0, _, j => some j
  | n + 1, i, j =>
    if j < limit then
      match s.text[i]?, s.text[j]? with
      | some c, some d =>
        if c = d ∨ (folding ∧ fold c.toNat = fold d.toNat) then
          repeatedEnd s folding limit n (i + 1) (j + 1)
        else none
      | _, _ => none
    else none

/-- The end of a back reference: the latest of the groups whose text is repeated here. -/
def backrefEnd (s : Setting) (st : State) (folding : Bool) : List Nat → Option Nat
  | [] => none
  | g :: gs =>
    match st.span? g with
    | none => backrefEnd s st folding gs
    | some (a, b) =>
      match s.repeatedEnd folding st.limit (b - a) a st.pos with
      | some j => some j
      | none => backrefEnd s st folding gs

/-- Whether what the groups named by back references have matched differs between two
traces. -/
def spansDiffer (s : Setting) (a b : List Event) : Bool :=
  s.program.referenced.any fun g =>
    State.startIn g a != State.startIn g b || State.stopIn g a != State.stopIn g b

/-- The greatest number of calls inside one another. -/
def maxDepth : Nat := 20

/-- Enters a group at the current position. -/
def enter (g : Nat) (body : Node) (more : List Frame) (st : State) : Ways :=
  .next (.node body :: .close g st.pos :: more) (st.record (.opened g st.pos))

/-- Enters a group by a call. -/
def enterCalled (g : Nat) (body : Node) (st : State) : Ways :=
  if maxDepth ≤ st.depth then .back
  else enter g body [.ret] { st.record .called with depth := st.depth + 1 }

/-- Tries a look-behind of varying length from the nearest position on. `n` more positions
are tried, from `back` characters back. -/
def lookBack (sub : List Frame → State → Outcome) (body : Node) (st : State) :
    Nat → Nat → Outcome
  | 0, _ => .failed
  | n + 1, back =>
    if st.pos < back then .failed
    else
      match sub [.node body, .expect st.pos] { st with pos := st.pos - back, limit := st.pos } with
      | .failed => lookBack sub body st n (back + 1)
      | o => o

/-- The outcome of the body of a look-behind. -/
def lookBehind (sub : List Frame → State → Outcome) (reach : Reach) (body : Node)
    (st : State) : Outcome :=
  if reach.most = some reach.least then
    if st.pos < reach.least then .failed
    else sub [.node body] { st with pos := st.pos - reach.least }
  else
    let most := match reach.most with
      | some m => min m st.pos
      | none => st.pos
    lookBack sub body st (most + 1 - reach.least) reach.least

/-- The first position from `i` on, at most `n` further, where a node matches. There is none if
the fuel does not suffice to find it. -/
def firstMatch (sub : List Frame → State → Outcome) (body : Node) (st : State) :
    Nat → Nat → Option Nat
  | 0, i => some i
  | n + 1, i =>
    match sub [.node body] { st with pos := i } with
    | .matched _ => some i
    | .exhausted => none
    | _ => firstMatch sub body st n (i + 1)

/-- Goes on up to the first position from the current one on where a node matches. -/
def upTo (sub : List Frame → State → Outcome) (body : Node) (st : State) (ways : Nat → Ways) :
    Ways :=
  match firstMatch sub body st (st.limit - st.pos) st.pos with
  | some stop => ways stop
  | none => .exhausted

/-- Goes on after a run of a machine of its own, with the match found or without one. -/
def afterRun (o : Outcome) (matched : State → Ways) (failed : Ways) : Ways :=
  match o with
  | .matched st => matched st
  | .failed => failed
  | .abandoned => .abandoned
  | .exhausted => .exhausted

/-- Goes on after a test, with what its body has matched if it counts. -/
def afterTest (positive : Bool) (o : Outcome) (st : State) : Ways :=
  if positive then afterRun o (fun st' => .done { st' with pos := st.pos, limit := st.limit }) .back
  else afterRun o (fun _ => .back) (.done st)

/-- Moves to a position, if there is one. -/
def moveTo (st : State) (pos : Option Nat) : Ways :=
  match pos with
  | some i => .done { st with pos := i }
  | none => .back

/-- Goes on if a test holds. -/
def check (st : State) (holds : Bool) : Ways :=
  if holds then .done st else .back

/-- Goes on with more of a repetition or with no more of it. -/
def more (greedy : Bool) (frames : List Frame) (st : State) : Ways :=
  if greedy then .go [(frames, st), ([], st)] else .go [([], st), (frames, st)]

/-- Begins or ends a round of a loop that can go on forever. -/
def loop (body : Node) (greedy : Bool) (st : State) : Ways :=
  more greedy [.node body, .round body greedy st.pos st.trace] st

/-- Passes a counter, at most `most` times along a match. -/
def pass (counter most : Nat) (st : State) : Ways :=
  if most ≤ st.passed counter then .back else .done (st.count counter)

/-- The position after the character at the current position, if it is in a set. -/
def setEnd (s : Setting) (cs : CharSet) (st : State) : Option Nat :=
  if st.pos < st.limit then
    match s.text[st.pos]? with
    | some c => if cs.mem c.toNat then some (st.pos + 1) else none
    | none => none
  else none

/-- The end of a back reference at a level of recursion. -/
def levelEnd (s : Setting) (st : State) (folding : Bool) (groups : List Nat) (level : Int) :
    Option Nat :=
  match State.spanAtLevel groups level 0 none st.trace with
  | some (a, b) => s.repeatedEnd folding st.limit (b - a) a st.pos
  | none => none

/-- Matches a node. `sub` runs a machine of its own. -/
def matchNode (s : Setting) (sub : List Frame → State → Outcome) (n : Node) (st : State) :
    Ways :=
  match n with
  | .empty => .done st
  | .impossible => .back
  | .literal cs false => moveTo st (s.literalEnd st.limit cs st.pos)
  | .literal cs true =>
    let target := cs.flatMap fun c => fold c.toNat
    moveTo st (s.foldedEnd st.limit target.length target st.pos)
  | .set cs => moveTo st (s.setEnd cs st)
  | .seq a b => .next [.node a, .node b] st
  | .alt a b => .go [([.node a], st), ([.node b], st)]
  | .many body (least + 1) most greedy =>
    .next [.node body, .node (.many body least (most.map (· - 1)) greedy)] st
  | .many _ 0 (some 0) _ => .done st
  | .many body 0 (some (most + 1)) greedy =>
    more greedy [.node body, .node (.many body 0 (some most) greedy)] st
  | .many body 0 none greedy => loop body greedy st
  | .capture g body =>
    if s.program.called.contains g then enterCalled g body st else enter g body [] st
  | .scope body => .next [.node body] st
  | .atomic body => afterRun (sub [.node body] st) .done .back
  | .ahead positive body => afterTest positive (sub [.node body] st) st
  | .behind positive reach body => afterTest positive (lookBehind sub reach body st) st
  | .anchor a => check st (s.holds a st.pos)
  | .keep => .done { st with start := st.pos }
  | .backref groups folding none => moveTo st (s.backrefEnd st folding groups.reverse)
  | .backref groups folding (some level) => moveTo st (s.levelEnd st folding groups level)
  | .isSet groups none => check st (groups.any fun g => (st.span? g).isSome)
  | .isSet groups (some level) =>
    check st (State.spanAtLevel groups level 0 none st.trace).isSome
  | .call g =>
    match (s.program.groups[g]?).join with
    | some body => enterCalled g body st
    | none => .back
  | .cond test yes no =>
    afterRun (sub [.node test] st) (.next [.node yes]) (.next [.node no] st)
  | .absent body => upTo sub body st fun stop => .next [.shrink st.pos] { st with pos := stop }
  | .absentIn body inner =>
    upTo sub body st fun stop => .next [.node inner, .limit st.limit] { st with limit := stop }
  | .absentCut body => upTo sub body st fun stop => .done { st with limit := stop }
  | .absentClear => .done { st with limit := s.text.size }
  | .cluster =>
    if st.pos < st.limit then
      .done { st with pos := clusterEnd s.text (st.limit - st.pos) st.pos }
    else .back
  | .checkpoint counter (some most) => pass counter most st
  | .checkpoint _ none => .done st
  | .abandon => .abandoned
  | .halt => .exhausted

/-- Does what a frame asks for. `sub` runs a machine of its own. -/
def step (s : Setting) (sub : List Frame → State → Outcome) (f : Frame) (st : State) : Ways :=
  match f with
  | .node n => s.matchNode sub n st
  | .close g start => .done (st.record (.closed g start st.pos))
  | .ret => .done { st.record .returned with depth := st.depth - 1 }
  | .round body greedy start trace =>
    if st.pos = start ∧ !s.spansDiffer trace st.trace then .done st else loop body greedy st
  | .limit n => .done { st with limit := n }
  | .expect pos => check st (st.pos == pos)
  | .shrink least =>
    if least < st.pos then .go [([], st), ([.shrink least], { st with pos := st.pos - 1 })]
    else .done st

/-- The choices open once a frame has been done, `frames` being what is to be done after it. -/
def pending (ways : List Choice) (frames : List Frame) (choices : List Choice) : List Choice :=
  ways.map (fun w => (w.1 ++ frames, w.2)) ++ choices

/-- Runs the machine. -/
def run (s : Setting) : Nat → List Frame → State → List Choice → Outcome
  | 0, _, _, _ => .exhausted
  | _ + 1, [], st, _ => .matched st
  | fuel + 1, f :: frames, st, choices =>
    match s.step (fun fs st' => run s fuel fs st' []) f st with
    | .abandoned => .abandoned
    | .exhausted => .exhausted
    | .go ways =>
      match pending ways frames choices with
      | [] => .failed
      | (frames', st') :: choices' => run s fuel frames' st' choices'

end Setting

end Highlight.Regex
