import Testbed.Text.Pieces
/-!
# Differences of lines

Which lines have to go and which have to come to turn one text into another, with as few of both as
can be. The search goes from both ends at once. A point of it stands for how many lines of each text
are behind it, a diagonal for points with the same difference of both, and the search knows for each
diagonal how far it got. Where the two ends meet, the texts are cut, and the halves are compared in
the same way.
-/
namespace Testbed.Rehearsal.Machine.Difference

/-- A line with its end. -/
abbrev Line := List Char

/-- For each line of two texts whether it is one of those that differ. -/
structure Marks where
  first : Array Bool
  second : Array Bool

/-- Part of two texts. -/
structure Window where
  x : Nat
  endX : Nat
  y : Nat
  endY : Nat

/-- Whether the lines at two places are the same. -/
def same (a b : Array Line) (x y : Nat) : Bool :=
  match a[x]?, b[y]? with
  | some l, some m => l = m
  | _, _ => false

namespace Window

/-- A window without the same lines at its beginning. -/
def dropFront (a b : Array Line) : Nat → Window → Window
  | 0, w => w
  | fuel + 1, w =>
    if w.x < w.endX && w.y < w.endY && same a b w.x w.y then
      dropFront a b fuel { w with x := w.x + 1, y := w.y + 1 }
    else w

/-- A window without the same lines at its end. -/
def dropBack (a b : Array Line) : Nat → Window → Window
  | 0, w => w
  | fuel + 1, w =>
    if w.x < w.endX && w.y < w.endY && same a b (w.endX - 1) (w.endY - 1) then
      dropBack a b fuel { w with endX := w.endX - 1, endY := w.endY - 1 }
    else w

def size (w : Window) : Nat := (w.endX - w.x) + (w.endY - w.y)

def trim (a b : Array Line) (w : Window) : Window :=
  dropBack a b w.size (dropFront a b w.size w)

end Window

/-! ## Where the ends meet -/

/-- How far a search got on each diagonal, and on which diagonals it is. -/
structure Front where
  reach : Array Int
  low : Int
  high : Int

/-- What a search works on: the texts, the window, and where the diagonals are kept. -/
structure Field where
  a : Array Line
  b : Array Line
  w : Window
  shift : Int

namespace Field

def get (f : Field) (row : Array Int) (d : Int) : Int := (row[(d + f.shift).toNat]?).getD 0

def put (f : Field) (row : Array Int) (d : Int) (x : Int) : Array Int :=
  row.setIfInBounds (d + f.shift).toNat x

/-- Goes on over the same lines. -/
def slide (f : Field) (d : Int) : Nat → Int → Int
  | 0, x => x
  | fuel + 1, x =>
    let y := x - d
    if x < f.w.endX && y < f.w.endY && same f.a f.b x.toNat y.toNat then f.slide d fuel (x + 1)
    else x

/-- Goes back over the same lines. -/
def slideBack (f : Field) (d : Int) : Nat → Int → Int
  | 0, x => x
  | fuel + 1, x =>
    let y := x - d
    if f.w.x < x && f.w.y < y && same f.a f.b (x - 1).toNat (y - 1).toNat then
      f.slideBack d fuel (x - 1)
    else x

/-- The diagonals of the next step, where those that are new have got nowhere yet. -/
def widen (f : Field) (p : Front) (nowhere : Int) : Front :=
  let least : Int := f.w.x - f.w.endY
  let most : Int := f.w.endX - f.w.y
  let p := if least < p.low then
      { p with reach := f.put p.reach (p.low - 2) nowhere, low := p.low - 1 }
    else { p with low := p.low + 1 }
  if p.high < most then
    { p with reach := f.put p.reach (p.high + 2) nowhere, high := p.high + 1 }
  else { p with high := p.high - 1 }

/-- A step forward on the diagonals from `d` down. It may meet the search from the other end. -/
def forward (f : Field) (odd : Bool) (other : Front) :
    Nat → Int → Front → Front × Option (Int × Int)
  | 0, _, p => (p, none)
  | fuel + 1, d, p =>
    if d < p.low then (p, none)
    else
      let (low, high) := (f.get p.reach (d - 1), f.get p.reach (d + 1))
      let x := f.slide d f.w.size (if low < high then high else low + 1)
      let p := { p with reach := f.put p.reach d x }
      if odd && other.low ≤ d && d ≤ other.high && f.get other.reach d ≤ x then
        (p, some (x, x - d))
      else f.forward odd other fuel (d - 2) p

/-- A step backward on the diagonals from `d` down. -/
def backward (f : Field) (odd : Bool) (other : Front) :
    Nat → Int → Front → Front × Option (Int × Int)
  | 0, _, p => (p, none)
  | fuel + 1, d, p =>
    if d < p.low then (p, none)
    else
      let (low, high) := (f.get p.reach (d - 1), f.get p.reach (d + 1))
      let x := f.slideBack d f.w.size (if low < high then low else high - 1)
      let p := { p with reach := f.put p.reach d x }
      if !odd && other.low ≤ d && d ≤ other.high && x ≤ f.get other.reach d then
        (p, some (x, x - d))
      else f.backward odd other fuel (d - 2) p

/-- Steps from both ends in turn, until they meet. -/
def meet (f : Field) (odd : Bool) : Nat → Front → Front → Int × Int
  | 0, _, _ => (f.w.x, f.w.y)
  | fuel + 1, p, q =>
    let rows := f.w.size + 2
    let p := f.widen p (-1)
    match f.forward odd q rows p.high p with
    | (_, some point) => point
    | (p, none) =>
      let q := f.widen q (f.w.endX + f.w.endY + 10)
      match f.backward odd p rows q.high q with
      | (_, some point) => point
      | (q, none) => f.meet odd fuel p q

/-- The point at which the texts of a window are cut. -/
def middle (a b : Array Line) (w : Window) : Nat × Nat :=
  let f : Field := { a, b, w, shift := w.endY - w.x + 2 }
  let blank := Array.replicate (w.size + 5) (0 : Int)
  let (first, last) := ((w.x : Int) - w.y, (w.endX : Int) - w.endY)
  let p : Front := ⟨f.put blank first w.x, first, first⟩
  let q : Front := ⟨f.put blank last w.endX, last, last⟩
  let (x, y) := f.meet ((first - last) % 2 ≠ 0) (w.size + 1) p q
  (x.toNat, y.toNat)

end Field

/-- Marks what differs in a window. -/
def compare (a b : Array Line) : Nat → Window → Marks → Marks
  | 0, _, m => m
  | fuel + 1, w, m =>
    let w := w.trim a b
    let inserted := (List.range (w.endY - w.y)).foldl
      (fun row i => row.setIfInBounds (w.y + i) true) m.second
    let deleted := (List.range (w.endX - w.x)).foldl
      (fun row i => row.setIfInBounds (w.x + i) true) m.first
    if w.x = w.endX then { m with second := inserted }
    else if w.y = w.endY then { m with first := deleted }
    else
      let (x, y) := Field.middle a b w
      compare a b fuel { w with x, y } (compare a b fuel { w with endX := x, endY := y } m)

/-! ## Where differences are shown -/

/-- A run of lines that differ, while it is moved. -/
structure Run where
  changed : Array Bool
  other : Array Bool
  start : Nat
  stop : Nat
  /-- The place in the other text. -/
  place : Nat

def isSet (row : Array Bool) (i : Nat) : Bool := (row[i]?).getD false

namespace Run

/-- The first place from `i` on that is not marked. -/
def pass (row : Array Bool) : Nat → Nat → Nat
  | 0, i => i
  | fuel + 1, i => if isSet row i then pass row fuel (i + 1) else i

/-- The first place of the marked ones before `i`. -/
def passBack (row : Array Bool) : Nat → Nat
  | 0 => 0
  | i + 1 => if isSet row i then passBack row i else i + 1

/-- The last place before `i` that is not marked. -/
def unmarkedBefore (row : Array Bool) : Nat → Nat
  | 0 => 0
  | i + 1 => if isSet row i then unmarkedBefore row i else i

def fuel (r : Run) : Nat := r.changed.size + r.other.size + 1

/-- Moves a run one line back. -/
def oneBack (r : Run) : Run :=
  let changed := (r.changed.setIfInBounds (r.start - 1) true).setIfInBounds (r.stop - 1) false
  { r with
    changed, start := passBack changed (r.start - 1), stop := r.stop - 1
    place := unmarkedBefore r.other r.place }

/-- Moves a run back as long as the line before it is the same as its last one. -/
def toFront (lines : Array Line) : Nat → Run → Run
  | 0, r => r
  | fuel + 1, r =>
    if 0 < r.start && lines[r.start - 1]? = lines[r.stop - 1]? then toFront lines fuel r.oneBack
    else r

/-- Moves a run on as long as its first line is the same as the one behind it. The result tells too
where it ended last next to lines that differ in the other text. -/
def toBack (lines : Array Line) : Nat → Run → Nat → Run × Nat
  | 0, r, matching => (r, matching)
  | fuel + 1, r, matching =>
    if r.stop < lines.size && lines[r.start]? = lines[r.stop]? then
      let changed := (r.changed.setIfInBounds r.start false).setIfInBounds r.stop true
      let stop := pass changed r.fuel (r.stop + 1)
      let place := pass r.other r.fuel (r.place + 1)
      let matching := if place ≠ r.place + 1 then stop else matching
      toBack lines fuel { r with changed, start := r.start + 1, stop, place } matching
    else (r, matching)

/-- Moves a run to and fro until it does not grow any more. -/
def settle (lines : Array Line) : Nat → Run → Run × Nat
  | 0, r => (r, lines.size)
  | fuel + 1, r =>
    let length := r.stop - r.start
    let r := toFront lines (lines.size + 1) r
    let matching := if 0 < r.place && isSet r.other (r.place - 1) then r.stop else lines.size
    let (r, matching) := toBack lines (lines.size + 1) r matching
    if r.stop - r.start = length then (r, matching) else settle lines fuel r

/-- Moves a run back to a line. -/
def backTo (goal : Nat) : Nat → Run → Run
  | 0, r => r
  | fuel + 1, r =>
    if goal < r.stop then
      backTo goal fuel { r with
        changed := (r.changed.setIfInBounds (r.start - 1) true).setIfInBounds (r.stop - 1) false
        start := r.start - 1, stop := r.stop - 1, place := unmarkedBefore r.other r.place }
    else r

/-- Skips the lines that do not differ, in both texts. -/
def skip (changed other : Array Bool) : Nat → Nat → Nat → Nat × Nat
  | 0, i, j => (i, j)
  | fuel + 1, i, j =>
    if i < changed.size && !isSet changed i then
      skip changed other fuel (i + 1) (pass other (other.size + 1) j + 1)
    else (i, j)

/-- Moves the runs from a line on to where they are shown. -/
def shift (lines : Array Line) (other : Array Bool) : Nat → Array Bool → Nat → Nat → Array Bool
  | 0, changed, _, _ => changed
  | fuel + 1, changed, i, j =>
    let (i, j) := skip changed other (lines.size + 1) i j
    if lines.size ≤ i then changed
    else
      let r : Run :=
        { changed, other, start := i, stop := pass changed (lines.size + 1) i
          place := pass other (other.size + 1) j }
      let (r, matching) := settle lines (lines.size + 1) r
      let r := backTo matching (lines.size + 1) r
      shift lines other fuel r.changed r.stop r.place

end Run

/-! ## The whole -/

/-- Some lines that others take the place of. Lines are counted from zero, and the ends are those
behind the last ones. -/
structure Hunk where
  start : Nat
  stop : Nat
  newStart : Nat
  newStop : Nat
  deriving DecidableEq, Repr

def Hunk.deletes (h : Hunk) : Bool := h.start < h.stop

def Hunk.inserts (h : Hunk) : Bool := h.newStart < h.newStop

/-- What the marks tell, from two places on. -/
def hunks (m : Marks) : Nat → Nat → Nat → List Hunk
  | 0, _, _ => []
  | fuel + 1, i, j =>
    let stop := Run.pass m.first (m.first.size + 1) i
    let newStop := Run.pass m.second (m.second.size + 1) j
    if i < stop || j < newStop then ⟨i, stop, j, newStop⟩ :: hunks m fuel stop newStop
    else if i < m.first.size && j < m.second.size then hunks m fuel (i + 1) (j + 1)
    else []

/-- The differences of two texts that have something of their own at both ends, or almost. -/
def findInside (a b : Array Line) : List Hunk :=
  -- a line that the other text has nowhere cannot be among those that stay
  let kept (row other : Array Line) : Array Nat :=
    let there := (other.toList.mergeSort fun l m => !decide (m < l)).toArray
    (Array.range row.size).filter fun i => row[i]?.any (isIn there)
  let (xs, ys) := (kept a b, kept b a)
  let chosen (row : Array Line) (places : Array Nat) : Array Line :=
    places.map fun i => (row[i]?).getD []
  let fresh (n : Nat) : Array Bool := Array.replicate n false
  let m := compare (chosen a xs) (chosen b ys) (xs.size + ys.size + 1) ⟨0, xs.size, 0, ys.size⟩
    ⟨fresh xs.size, fresh ys.size⟩
  let spread (n : Nat) (places : Array Nat) (marks : Array Bool) : Array Bool :=
    (List.range places.size).foldl
      (fun row i => row.setIfInBounds ((places[i]?).getD n) (isSet marks i))
      (Array.replicate n true)
  let first := spread a.size xs m.first
  let second := spread b.size ys m.second
  let first := Run.shift a second (a.size + 1) first 0 0
  let second := Run.shift b first (b.size + 1) second 0 0
  hunks ⟨first, second⟩ (a.size + b.size + 1) 0 0
where
  /-- Whether a sorted row holds a line. -/
  isIn (row : Array Line) (line : Line) : Bool := search row line (row.size + 1) 0 row.size
  search (row : Array Line) (line : Line) : Nat → Nat → Nat → Bool
    | 0, _, _ => false
    | fuel + 1, low, high =>
      if high ≤ low then false
      else
        let middle := (low + high) / 2
        match row[middle]? with
        | none => false
        | some l =>
          if l = line then true
          else if l < line then search row line fuel (middle + 1) high
          else search row line fuel low middle

/-- The differences of two texts. What is of no interest in a line is taken away by `key`. The lines
that the texts share at both ends are left out, but for some next to the differences. -/
def find (key : Line → Line) (near : Nat) (a b : Array Line) : List Hunk :=
  let all : Window := ⟨0, a.size, 0, b.size⟩
  let w := Window.dropFront a b all.size all
  let w := { w with x := w.x - near, endX := a.size, y := w.y - near, endY := b.size }
  let w := Window.dropBack a b w.size w
  let part (row : Array Line) (start stop : Nat) : Array Line :=
    (row.extract start (stop + near)).map key
  (findInside (part a w.x w.endX) (part b w.y w.endY)).map fun h =>
    ⟨h.start + w.x, h.stop + w.x, h.newStart + w.y, h.newStop + w.y⟩

end Testbed.Rehearsal.Machine.Difference
