import Expectation.Text.Utf8

/-!
# Files

What the command sees of the files: a path leads to nothing, to a file with
bytes, or to something that cannot be read. `Files` is a tree of files kept in
memory, in which paths are looked up as an operating system does it: part by
part, where every part but the last has to be a directory. Writing a file makes
the directories on the way, and they stay even if the file cannot be written.

A path leads on from the working directory, or from the root if it begins with
a stroke. Either way it leads to a place, and places are told from the working
directory: as many `..` as there are steps up, and then the names on the way
down. A name that leads from above back towards the working directory takes one
of the `..` away, so a place is told in one way only.

## Main results

* `contentAt_write`: what the files hold after one of them is written.
* `follow_here`: the names of the working directory lead to it from the root.
-/

namespace Expectation.Command

/-- What a path leads to. -/
inductive FileState where
  | missing
  /-- Something that cannot be read, with its size and the reason. -/
  | unreadable (size : Nat) (reason : String)
  | content (bytes : List UInt8)
  deriving DecidableEq, Repr

/-- Files by their places. A directory is there when a file is in it or when it was made,
and the working directory and those around it are always there. -/
structure Files where
  entries : List (List String × List UInt8) := []
  directories : List (List String) := []
  /-- The names of the working directory and of those around it, the innermost first. The
  root has no name. -/
  here : List String := ["work"]
  deriving Repr

namespace Files

/-- The content of the file at a place. -/
def contentAt (files : Files) (place : List String) : Option (List UInt8) :=
  (files.entries.find? (·.1 == place)).map (·.2)

/-- Whether a place is the working directory or around it. -/
def isOutside (place : List String) : Bool :=
  place.all (· == "..")

/-- Whether a place is a directory. -/
def isDirectory (files : Files) (place : List String) : Bool :=
  isOutside place || files.directories.contains place ||
    files.entries.any fun e => place.isPrefixOf e.1 && place != e.1

/-- The files with one more directory. -/
def makeDirectory (files : Files) (place : List String) : Files :=
  { files with directories := place :: files.directories }

/-- The files after one of them is written. -/
def writeAt (files : Files) (place : List String) (bytes : List UInt8) : Files :=
  { files with entries := (place, bytes) :: files.entries.filter (·.1 != place) }

/-- A written file holds what was written, and the others what they held. -/
theorem contentAt_write (files : Files) (place other : List String) (bytes : List UInt8) :
    (files.writeAt place bytes).contentAt other =
      if other = place then some bytes else files.contentAt other := by
  by_cases h : other = place
  · subst h
    simp [contentAt, writeAt]
  · have placeOther : (place == other) = false := by simpa using fun e => h e.symm
    have same : (fun e : List String × List UInt8 =>
        decide ((e.1 != place) = true ∧ (e.1 == other) = true)) = fun e => e.1 == other := by
      funext e
      by_cases he : e.1 = other
      · simp [he, h]
      · simp [he]
    simp only [contentAt, writeAt, List.find?_cons, placeOther, h, if_false,
      List.find?_filter, same]

/-! ## Paths -/

/-- The parts of a path between its strokes. -/
def parts : List Char → List (List Char)
  | [] => [[]]
  | c :: cs =>
    if c = '/' then [] :: parts cs
    else match parts cs with
      | [] => [[c]]
      | p :: ps => (c :: p) :: ps

/-- What stands in the way where a path leads. -/
inductive Obstacle where
  /-- Nothing is there. -/
  | missing
  /-- A file is where a directory is to be made. -/
  | occupied
  /-- A part that is not the last is a file. -/
  | notDirectory
  /-- A directory is where a file is asked for. -/
  | isDirectory
  /-- A part, or the whole path, is longer than paths may be. -/
  | tooLong
  deriving DecidableEq, Repr

/-- The wording of an obstacle. -/
def Obstacle.message : Obstacle → String
  | .missing => "No such file or directory (os error 2)"
  | .occupied => "File exists (os error 17)"
  | .notDirectory => "Not a directory (os error 20)"
  | .isDirectory => "Is a directory (os error 21)"
  | .tooLong => "File name too long (os error 36)"

/-- How many bytes a part of a path may have. -/
def partLimit : Nat := 255

/-- How many bytes a path may have. -/
def pathLimit : Nat := 4095

/-- The place of the root. -/
def root (here : List String) : List String :=
  List.replicate here.length ".."

/-- The directory around a place. The root leads to itself. -/
def above (here place : List String) : List String :=
  if isOutside place then
    if place.length < here.length then ".." :: place else place
  else place.dropLast

/-- The place of a name in a directory. -/
def below (here : List String) (name : String) : List String → List String
  | ".." :: place =>
    -- the name may be that of the directory which the last step up came from
    if isOutside place && here[place.length]? = some name then place else ".." :: place ++ [name]
  | place => place ++ [name]

/-- The place that a part leads to from a directory. -/
def enter (here place : List String) (part : String) : Except Obstacle (List String) :=
  if part.isEmpty || part = "." then .ok place
  else if part = ".." then .ok (above here place)
  else if partLimit < part.utf8ByteSize then .error .tooLong
  else .ok (below here part place)

/-- The place that parts lead to from a place. -/
def follow (files : Files) (place : List String) : List String → Except Obstacle (List String)
  | [] => .ok place
  | part :: rest =>
    if !files.isDirectory place then
      .error (if (files.contentAt place).isSome then .notDirectory else .missing)
    else
      match enter files.here place part with
      | .error obstacle => .error obstacle
      | .ok next => follow files next rest

/-- The parts of a path. -/
def partsOf (path : String) : List String := (parts path.toList).map String.ofList

/-- The parts of a path that lead somewhere. -/
def stepsOf (path : String) : List String :=
  (partsOf path).filter fun part => !part.isEmpty && part != "."

/-- Where a path begins. -/
def start (here : List String) (path : String) : List String :=
  if path.toList.head? = some '/' then root here else []

/-- The place that a path leads to. -/
def placeOf (files : Files) (path : String) : Except Obstacle (List String) :=
  if path.isEmpty then .error .missing
  else if pathLimit < path.utf8ByteSize then .error .tooLong
  else files.follow (start files.here path) (partsOf path)

/-- A part that is the name of a file or a directory. -/
def IsName (part : String) : Prop :=
  part ≠ "" ∧ part ≠ "." ∧ part ≠ ".." ∧ part.utf8ByteSize ≤ partLimit

theorem isOutside_replicate (k : Nat) : isOutside (List.replicate k "..") = true := by
  simp [isOutside]

/-- The name of a directory around the working directory leads one step back to it. -/
theorem enter_back {here : List String} {k : Nat} (hk : k < here.length)
    (hname : IsName here[k]) :
    enter here (List.replicate (k + 1) "..") here[k] = .ok (List.replicate k "..") := by
  obtain ⟨hempty, hdot, hdots, hsize⟩ := hname
  simp [enter, hempty, hdot, hdots, hsize, List.replicate_succ, below, isOutside_replicate, hk]

/-- **The names of the working directory lead to it from the root.** -/
theorem follow_here (files : Files) (hnames : ∀ name ∈ files.here, IsName name)
    (rest : List String) :
    files.follow (root files.here) (files.here.reverse ++ rest) = files.follow [] rest := by
  suffices hback : ∀ k ≤ files.here.length,
      files.follow (List.replicate k "..") ((files.here.take k).reverse ++ rest) =
        files.follow [] rest by
    simpa [root] using hback files.here.length (Nat.le_refl _)
  intro k
  induction k with
  | zero => simp
  | succ k ih =>
      intro hk
      have henter := enter_back hk (hnames _ (List.getElem_mem hk))
      have hparts : (files.here.take (k + 1)).reverse =
          files.here[k] :: (files.here.take k).reverse := by
        rw [List.take_add_one, List.getElem?_eq_getElem hk, Option.toList_some, List.reverse_append]
        rfl
      rw [hparts, List.cons_append, follow, henter]
      simp only [isDirectory, isOutside_replicate, Bool.true_or, Bool.not_true]
      exact ih (Nat.le_of_lt hk)

/-! ## Reading -/

/-- The size of a directory. -/
def directorySize : Nat := 4096

/-- What a path leads to. -/
def state (files : Files) (path : String) : FileState :=
  match files.placeOf path with
  | .error .missing => .missing
  | .error obstacle => .unreadable 0 obstacle.message
  | .ok place =>
    match files.contentAt place with
    | some bytes => .content bytes
    | none =>
      if files.isDirectory place then .unreadable directorySize Obstacle.isDirectory.message
      else .missing

/-! ## Writing -/

/-- The files with the directories along a way from a place, as far as they can be made,
and what stands in the way. -/
def makeAlong (files : Files) (place : List String) : List String → Files × Option Obstacle
  | [] => (files, none)
  | part :: rest =>
    match enter files.here place part with
    | .error obstacle => (files, some obstacle)
    | .ok next =>
      if files.isDirectory next then makeAlong files next rest
      else if (files.contentAt next).isSome then (files, some .occupied)
      else makeAlong (files.makeDirectory next) next rest

/-- The place for a file at the end of a way from a place, with the parts given last first. A
way without parts leads to the root. -/
def targetAt (files : Files) (place : List String) : List String → Except Obstacle (List String)
  | [] => .error .isDirectory
  | last :: front =>
    match files.follow place (front.dropWhile String.isEmpty).reverse with
    | .error obstacle => .error obstacle
    | .ok around =>
      if !files.isDirectory around then
        .error (if (files.contentAt around).isSome then .notDirectory else .missing)
      else
        match enter files.here around last with
        | .error obstacle => .error obstacle
        | .ok target => if files.isDirectory target then .error .isDirectory else .ok target

/-- The place for a file at a path: a path that ends in a stroke or in dots names a
directory. -/
def target (files : Files) (path : String) : Except Obstacle (List String) :=
  if path.isEmpty then .error .missing
  else if pathLimit < path.utf8ByteSize then .error .tooLong
  else
    match (partsOf path).reverse with
    | "" :: front =>
      -- the part in front of the stroke counts, and it cannot be a file
      match files.targetAt (start files.here path) (front.dropWhile String.isEmpty) with
      | .ok _ => .error .isDirectory
      | .error obstacle => .error obstacle
    | reversed => files.targetAt (start files.here path) reversed

/-- The files after writing at a path, and what stands in the way. -/
def write (files : Files) (path : String) (bytes : List UInt8) : Files × Option Obstacle :=
  match files.makeAlong (start files.here path) (stepsOf path).dropLast with
  | (files, some obstacle) => (files, some obstacle)
  | (files, none) =>
    match files.target path with
    | .error obstacle => (files, some obstacle)
    | .ok place => (files.writeAt place bytes, none)

/-- Why a path cannot be written. -/
def writeFault (files : Files) (path : String) : Option String :=
  (files.write path []).2.map Obstacle.message

end Files

end Expectation.Command
