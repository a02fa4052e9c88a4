namespace GramSieve.Files

/-!
# Glob patterns

A pattern is matched with the bytes of a whole path. A star stands for any bytes, slashes included,
and `**` between slashes stands for any directories.

* `GlobToken`, `Glob` — the parts of a pattern.
* `Glob.parse?` — reads a pattern.
* `Glob.matchesPath` — whether a path matches.
-/

/-- A part of a pattern. -/
inductive GlobToken where
  | literal (char : Char)
  /-- `?`, a single byte. -/
  | anyByte
  /-- `*`, any bytes. -/
  | anyBytes
  /-- `**/` at the start: any directories. -/
  | dirsInFront
  /-- `/**` at the end: anything in a directory. -/
  | dirsBehind
  /-- `/**/`: a slash with or without directories behind it. -/
  | dirsBetween
  /-- `[a-z]` or `[!a-z]`: a byte of a set, or of no member of it. -/
  | oneOf (negated : Bool) (ranges : List (Char × Char))
  /-- `{a,b}`: one of some patterns. -/
  | choice (branches : List (List GlobToken))
  deriving Repr, Inhabited

/-- A pattern. -/
abbrev Glob := List GlobToken

namespace Glob

/-! ### Reading -/

/-- What has been read of a pattern: the parts of the innermost branch, last one first, and for every
open choice the parts before it and the branches that are complete. -/
structure Reader where
  tokens : List GlobToken := []
  choices : List (List GlobToken × List (List GlobToken)) := []

namespace Reader

/-- Adds a part. -/
def push (r : Reader) (t : GlobToken) : Reader := { r with tokens := t :: r.tokens }

/-- Starts a choice. -/
def openChoice (r : Reader) : Reader := { tokens := [], choices := (r.tokens, []) :: r.choices }

/-- Starts the next branch, or adds a comma outside a choice. -/
def nextBranch (r : Reader) : Reader :=
  match r.choices with
  | [] => r.push (.literal ',')
  | (outer, branches) :: choices =>
    { tokens := [], choices := (outer, r.tokens.reverse :: branches) :: choices }

/-- Ends the innermost choice. -/
def closeChoice? (r : Reader) : Option Reader :=
  match r.choices with
  | [] => none
  | (outer, branches) :: choices =>
    some { tokens := .choice (r.tokens.reverse :: branches).reverse :: outer, choices }

/-- Makes the last part, which is a slash, stand for directories too. -/
def widen (r : Reader) (atEnd : Bool) : Reader :=
  match r.tokens with
  | .dirsInFront :: _ | .dirsBehind :: _ | [] => r
  | _ :: rest => { r with tokens := (if atEnd then .dirsBehind else .dirsBetween) :: rest }

end Reader

/-- Reads the members of a set up to its closing bracket. `first` tells that there are none yet, and
`inRange` that the last one starts a range. -/
def readSet? (ranges : List (Char × Char)) (first inRange : Bool) :
    List Char → Option (List (Char × Char) × List Char)
  | [] => none
  | c :: rest =>
    if c = ']' && !first then
      some ((if inRange then ('-', '-') :: ranges else ranges).reverse, rest)
    else if c = '-' && !first && !inRange then readSet? ranges false true rest
    else
      match inRange, ranges with
      | true, (lo, _) :: others =>
        if c < lo then none else readSet? ((lo, c) :: others) false false rest
      | _, _ => readSet? ((c, c) :: ranges) false false rest

/-- What has been read after one more part: the last character of it, and what is left. -/
structure Step where
  last : Char
  rest : List Char
  reader : Reader

/-- Reads stars, of which the first is read already; `before` is the character in front of it. -/
def readStar (before : Option Char) (rest : List Char) (r : Reader) : Step :=
  let plain (rest : List Char) (r : Reader) : Step := ⟨'*', rest, r⟩
  match rest with
  | '*' :: rest =>
    let twoStars := plain rest ((r.push .anyBytes).push .anyBytes)
    if r.tokens.isEmpty then
      match rest with
      | [] => plain [] (r.push .dirsInFront)
      | '/' :: rest => ⟨'/', rest, r.push .dirsInFront⟩
      | _ => twoStars
    else if before != some '/' &&
        (r.choices.isEmpty || (before != some ',' && before != some '{')) then twoStars
    else
      match rest with
      | [] => plain [] (r.widen true)
      | '/' :: rest => ⟨'/', rest, r.widen false⟩
      | c :: _ =>
        if !r.choices.isEmpty && (c = ',' || c = '}') then plain rest (r.widen true) else twoStars
  | _ => plain rest (r.push .anyBytes)

/-- Reads the part that starts with `c`. -/
def readToken? (before : Option Char) (c : Char) (rest : List Char) (r : Reader) : Option Step :=
  match c with
  | '?' => some ⟨c, rest, r.push .anyByte⟩
  | '*' => some (readStar before rest r)
  | '[' => do
    let (negated, members) := match rest with
      | '!' :: rest | '^' :: rest => (true, rest)
      | _ => (false, rest)
    let (ranges, rest) ← readSet? [] true false members
    return ⟨']', rest, r.push (.oneOf negated ranges)⟩
  | '{' => some ⟨c, rest, r.openChoice⟩
  | '}' => r.closeChoice?.map (⟨c, rest, ·⟩)
  | ',' => some ⟨c, rest, r.nextBranch⟩
  | '\\' =>
    match rest with
    | [] => none
    | escaped :: rest => some ⟨escaped, rest, r.push (.literal escaped)⟩
  | _ => some ⟨c, rest, r.push (.literal c)⟩

/-- Reads parts until nothing is left, and at most one for each of `steps`. -/
def readTokens? (steps : List Char) (before : Option Char) (rest : List Char) (r : Reader) :
    Option Glob :=
  match steps, rest with
  | _ :: steps, c :: rest => do
    let step ← readToken? before c rest r
    readTokens? steps (some step.last) step.rest step.reader
  | _, _ => if r.choices.isEmpty then some r.tokens.reverse else none

/-- Reads a pattern. -/
def parse? (pattern : String) : Option Glob :=
  readTokens? pattern.toList none pattern.toList {}

/-! ### Matching -/

/-- The bytes of a character. -/
def bytesOf (c : Char) : List UInt8 := String.utf8EncodeChar c

/-- Whether a byte is in a range of characters. Of characters of several bytes every byte counts, and
a range goes from the last byte of its start to the first byte of its end. -/
def inRange (b : UInt8) (range : Char × Char) : Bool :=
  let (lo, hi) := range
  if lo = hi then (bytesOf lo).contains b
  else
    match (bytesOf lo).reverse, bytesOf hi with
    | last :: front, first :: behind =>
      front.contains b || (last ≤ b && b ≤ first) || behind.contains b
    | _, _ => false

/-- The ends of a byte string, itself included. -/
def tails : List UInt8 → List (List UInt8)
  | [] => [[]]
  | b :: bs => (b :: bs) :: tails bs

/-- What stands behind the slashes of a byte string. -/
def afterSlashes : List UInt8 → List (List UInt8)
  | [] => []
  | b :: bs => if b = 47 then bs :: afterSlashes bs else afterSlashes bs

mutual

/-- Whether a part stands for nothing at all: a choice between nothings. -/
def isBlank : GlobToken → Bool
  | .choice branches => areBlankBranches branches
  | _ => false

/-- Whether some parts stand for nothing at all. -/
def areBlank : List GlobToken → Bool
  | [] => true
  | t :: ts => isBlank t && areBlank ts

/-- Whether all branches stand for nothing at all. -/
def areBlankBranches : List (List GlobToken) → Bool
  | [] => true
  | ts :: branches => areBlank ts && areBlankBranches branches

end

mutual

/-- What may be left of a byte string behind a part. -/
def rests (t : GlobToken) (bytes : List UInt8) : List (List UInt8) :=
  match t with
  | .literal c =>
    let front := bytesOf c
    if front.isPrefixOf bytes then [bytes.drop front.length] else []
  | .anyByte => bytes.tail?.toList
  | .anyBytes => tails bytes
  | .dirsInFront => bytes :: afterSlashes bytes
  | .dirsBehind =>
    match bytes with
    | 47 :: behind => tails behind
    | _ => []
  | .dirsBetween =>
    match bytes with
    | 47 :: behind => behind :: afterSlashes behind
    | _ => []
  | .oneOf negated ranges =>
    match bytes with
    | b :: behind => if ranges.any (inRange b) != negated then [behind] else []
    | [] => []
  | .choice branches =>
    if areBlankBranches branches then [bytes] else restsBranches branches bytes

/-- What may be left behind all of some parts, each of which stands for something. -/
def restsAll (ts : List GlobToken) (bytes : List UInt8) : List (List UInt8) :=
  match ts with
  | [] => [bytes]
  | t :: ts => ((rests t bytes).flatMap fun behind => restsAll ts behind).eraseDups

/-- What may be left behind one of some branches. Branches that stand for nothing do not count. -/
def restsBranches (branches : List (List GlobToken)) (bytes : List UInt8) : List (List UInt8) :=
  match branches with
  | [] => []
  | ts :: branches =>
    (if areBlank ts then [] else restsAll ts bytes) ++ restsBranches branches bytes

end

/-- Whether a path matches as a whole. The pattern `**` matches everything. -/
def matchesPath (g : Glob) (path : String) : Bool :=
  match g with
  | [.dirsInFront] => true
  | _ => (restsAll g path.toUTF8.toList).contains []

end Glob

end GramSieve.Files
