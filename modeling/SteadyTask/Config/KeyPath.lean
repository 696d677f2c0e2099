import SteadyTask.Config.Tree

/-!
# Paths of settings

A name at the top of a source can be a path: names joined by dots, and places of list items in
square brackets, such as `mode.thresholds` or `cache[0]`.  Setting a value at a path makes what is
on the way to it: a table where an entry is named, and a list where an item is numbered, whatever
was there before.  A name that is no path stands for itself.
-/

namespace SteadyTask.Config

/-- A step from a value to a part of it. -/
inductive Step where
  | entry (name : String)
  /-- The item at a place, counted from the end if the place is negative. -/
  | item (place : Int)
  deriving Repr, DecidableEq

/-- Whether a character can stand in a part of a path. -/
def isPartChar (c : Char) : Bool :=
  c.isAlphanum || c = ' ' || c = '_' || c = '-'

/-- Whether a character is a blank around the number of a place. -/
def isPlaceBlank (c : Char) : Bool :=
  c = ' ' || c = '\t'

/-- The place that stands before some characters up to a bracket, and what follows the bracket. -/
def readPlace? (cs : List Char) : Option (Int × List Char) :=
  let cs := cs.dropWhile isPlaceBlank
  let sign := cs.takeWhile (· = '-')
  let digits := (cs.drop sign.length).takeWhile Decimal.isDigit
  match (cs.drop (sign.length + digits.length)).dropWhile isPlaceBlank with
  | ']' :: rest => (Decimal.readInt64? (sign ++ digits)).map fun place => (place, rest)
  | _ => none

/-- Reads the steps after the first name of a path, at most so many. -/
def readSteps? : Nat → List Char → Option (List Step)
  | _, [] => some []
  | steps + 1, '.' :: rest =>
    let name := rest.takeWhile isPartChar
    if name.isEmpty then none
    else (readSteps? steps (rest.drop name.length)).map (.entry (String.ofList name) :: ·)
  | steps + 1, '[' :: rest => do
    let (place, rest) ← readPlace? rest
    return .item place :: (← readSteps? steps rest)
  | _, _ => none

/-- The steps that a name at the top of a source leads along. -/
def keyPath (key : String) : List Step :=
  let cs := key.toList
  let name := cs.takeWhile isPartChar
  if name.isEmpty then [.entry key]
  else
    ((readSteps? cs.length (cs.drop name.length)).map (.entry (String.ofList name) :: ·)).getD
      [.entry key]

/-! ## Setting values -/

mutual

/-- Lays a tree over another one.  Tables are merged entry by entry, under names in lower case;
everything else is replaced. -/
def Tree.overlay (below : Option Tree) : Tree → Tree
  | .table [] => below.getD (.table [])
  | .table (entry :: more) =>
    .table (overlayEntries ((below.map Tree.entries).getD []) (entry :: more))
  | .absent => .absent
  | .flag b => .flag b
  | .whole n => .whole n
  | .real x => .real x
  | .text s => .text s
  | .list items => .list items

/-- Lays entries over those of a table. -/
def overlayEntries (below : List (String × Tree)) : List (String × Tree) → List (String × Tree)
  | [] => below
  | (name, t) :: rest =>
    let key := Text.lower name
    overlayEntries (Tree.setEntry key (Tree.overlay (below.lookup key) t) below) rest

end

/-- The items of a list; anything else has none. -/
def Tree.items : Tree → List Tree
  | .list items => items
  | _ => []

/-- The place of an item in a list of so many. -/
def placeIn? (size : Nat) (place : Int) : Option Nat :=
  if 0 ≤ place then some place.toNat
  else if 0 ≤ size + place then some (size + place).toNat
  else none

/-- Sets the item at a place; items that are missing before it are absent. -/
def setItem (place : Nat) (t : Tree) (items : List Tree) : List Tree :=
  (items ++ List.replicate (place + 1 - items.length) Tree.absent).set place t

/-- Lays a tree over what is at the end of some steps; `none` if a place lies before the first
item.  The last name counts in any letter case, those on the way as they are written. -/
def overlayAt (t : Tree) : List Step → Option Tree → Option Tree
  | [], below => some (Tree.overlay below t)
  | [.entry name], below =>
    some (.table (overlayEntries ((below.map Tree.entries).getD []) [(name, t)]))
  | .entry name :: rest, below => do
    let entries := (below.map Tree.entries).getD []
    return .table (Tree.setEntry name (← overlayAt t rest (entries.lookup name)) entries)
  | .item place :: rest, below => do
    let items := (below.map Tree.items).getD []
    let place ← placeIn? items.length place
    let inner ← if rest.isEmpty then pure t else overlayAt t rest items[place]?
    return .list (setItem place inner items)

/-- Lays a source over a tree. -/
def overlaySource (below : Tree) (source : List (String × Tree)) : Option Tree :=
  source.foldlM (fun below (key, t) => overlayAt t (keyPath key) (some below)) below

end SteadyTask.Config
