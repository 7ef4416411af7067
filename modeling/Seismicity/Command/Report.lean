import Seismicity.Exchange.Source
import Seismicity.Notice

/-!
# Reports

What the requests of the command line answer, as tables and as text.

## Main definitions

* `InfoRow`, `CollapseRow`: The rows of the two tables.
* `Report.clusters`: The members of each cluster, by id.
* `CommandError`: Why a request fails.
* `CommandError.report`: How a failure is reported.
-/

namespace Seismicity

/-- The row of a source in a summary. -/
structure InfoRow where
  id : String
  kind : String
  orientations : Nat
  ruptures : Nat
  radius : Float

/-- The row of a source in the outcome of collapsing. -/
structure CollapseRow where
  group : Nat
  id : String
  kind : String
  members : Nat
  wkt : String
  deriving DecidableEq

/-- A line of output: text, or a rupture. -/
inductive Line where
  | text (s : String)
  | rupture (r : Rupture Float)

/-- Why the text of a file cannot be read. -/
inductive FileFault where
  | missing
  | directory
  /-- A directory on the way to the file is none. -/
  | notDirectory
  | nameTooLong
  | denied
  /-- The file does not hold UTF-8. -/
  | notText
  | other (reason : String)
  deriving DecidableEq, Repr

/-- The wording of a fault of a file. -/
def FileFault.message : FileFault → String
  | .missing => "No such file or directory (os error 2)"
  | .directory => "Is a directory (os error 21)"
  | .notDirectory => "Not a directory (os error 20)"
  | .nameTooLong => "File name too long (os error 36)"
  | .denied => "Permission denied (os error 13)"
  | .notText => "stream did not contain valid UTF-8"
  | .other reason => reason

/-- Why a model file cannot be read: its text cannot be read, or does not hold
    a model. -/
inductive LoadError where
  | io (fault : FileFault)
  | json (error : Json.Error)

/-- Why a request fails. -/
inductive CommandError where
  | load (path : String) (error : LoadError)
  | invalid (failure : Failure Float)
  | gridding (failure : Failure Float)
  | unknownSource (id : String)
  | notPointLike (id : String)

/-- The wording of a failure to read a file: first with the kind of the reason,
    and then the reason alone. -/
def LoadError.messages : LoadError → List String
  | .io fault => ["IO error: " ++ fault.message, fault.message]
  | .json error => ["JSON error: " ++ error.message, error.message]

namespace CommandError

/-- What failed, and the causes of it. -/
def messages : CommandError → List String
  | .load path error => ("Failed to load source model " ++ path) :: error.messages
  | .invalid failure => ["Invalid source model", failure.message]
  | .gridding failure => [failure.message]
  | .unknownSource id => ["Unknown source id '" ++ id ++ "'"]
  | .notPointLike id => ["Source '" ++ id ++ "' is not a point source"]

/-- A cause, whose lines are moved to the right. -/
def cause (first rest text : String) : String :=
  first ++ ("\n" ++ rest).intercalate (text.splitOn "\n")

/-- The causes of a failure; they are numbered if there are several. -/
def causes : List String → List String
  | [text] => [cause "    " "    " text]
  | texts =>
    texts.zipIdx.map fun (text, i) =>
      let number := toString i
      cause (String.ofList (List.replicate (5 - number.length) ' ') ++ number ++ ": ")
        "       " text

/-- The report of a failure. -/
def report (error : CommandError) : String :=
  match error.messages with
  | [] => "Error: "
  | [text] => "Error: " ++ text
  | text :: rest => "Error: " ++ text ++ "\n\nCaused by:\n" ++ "\n".intercalate (causes rest)

end CommandError

namespace Report

/-- Text with blanks behind it, up to a width in characters. -/
def padRight (width : Nat) (s : String) : String :=
  s ++ String.ofList (List.replicate (width - s.length) ' ')

/-- Text with blanks in front of it, up to a width in characters. -/
def padLeft (width : Nat) (s : String) : String :=
  String.ofList (List.replicate (width - s.length) ' ') ++ s

/-- A line of the summary table. -/
def infoColumns (id kind orientations ruptures radius : String) : String :=
  padRight 16 id ++ " " ++ padRight 10 kind ++ " " ++ padLeft 6 orientations ++ " "
    ++ padLeft 10 ruptures ++ " " ++ padLeft 12 radius

/-- The text of a row of the summary. -/
def infoText (row : InfoRow) : String :=
  infoColumns row.id row.kind (toString row.orientations) (toString row.ruptures)
    (Double.fixed 3 row.radius)

/-- The rows of the summary: one for each point-like source. -/
def infoRows (sources : List (Source Float)) : List InfoRow :=
  sources.filterMap fun source =>
    source.pointLike?.map fun p =>
      { id := p.id
        kind := source.kind
        orientations := p.countOrientations
        ruptures := p.countRuptures
        radius := p.maxRadius }

/-- The summary of a model. -/
def info (name : String) (sources : List (Source Float)) : List Line :=
  let rows := infoRows sources
  [ .text ("Model " ++ name ++ " (" ++ toString sources.length ++ " sources)"),
    .text (infoColumns "source_id" "kind" "nphc" "ruptures" "radius_km") ]
    ++ rows.map (fun row => .text (infoText row))
    ++ [.text ("Total ruptures: " ++ toString (totalCount (rows.map InfoRow.ruptures)))]

/-- The row of a source in its group. -/
def collapseRow (group : Nat) (source : Source Float) : CollapseRow :=
  { group := group
    id := source.id
    kind := source.kind
    members := source.memberCount
    wkt := (source.pointLike?.map PointLike.wkt).getD "" }

/-- The rows of the outcome of collapsing: one for each source that is left,
    group by group. -/
def collapseRows (grouped : Grouped (Source Float)) : List CollapseRow :=
  grouped.flatMap fun (group, sources) => sources.map (collapseRow group)

/-- The text of a row of the outcome of collapsing. -/
def collapseText (row : CollapseRow) : String :=
  "grp=" ++ toString row.group ++ " " ++ padRight 16 row.id ++ " " ++ padRight 10 row.kind
    ++ " members=" ++ padRight 4 (toString row.members) ++ " " ++ row.wkt

/-- The outcome of collapsing, as a table. -/
def collapse (before : Nat) (grouped : Grouped (Source Float)) : List Line :=
  let rows := collapseRows grouped
  rows.map (fun row => .text (collapseText row))
    ++ [.text (toString before ++ " sources -> " ++ toString rows.length ++ " sources")]

/-- Adds an entry to a list sorted by key; a later entry of the same key takes
    the place of an earlier one. -/
def insertSorted {β : Type} (key : String) (x : β) : List (String × β) → List (String × β)
  | [] => [(key, x)]
  | (k, y) :: rest =>
    if key < k then (key, x) :: (k, y) :: rest
    else if key = k then (key, x) :: rest
    else (k, y) :: insertSorted key x rest

/-- The clusters among sources. -/
def clustersOf (sources : List (Source Float)) : List (Cluster Float) :=
  sources.filterMap fun
    | .cluster c => some c
    | _ => none

/-- The ids of the members of each cluster, sorted by the id of the cluster. -/
def clusters (grouped : Grouped (Source Float)) : List (String × List String) :=
  (clustersOf grouped.toList).foldl
    (fun entries c => insertSorted c.id (c.members.map fun s => s.id) entries) []

/-- The clusters as a JSON object, one entry on each line. -/
def clusterLines (grouped : Grouped (Source Float)) : List Line :=
  (Json.object ((clusters grouped).map fun (id, members) =>
    (id, Json.array (members.map Json.string)))).renderLines.map .text

end Report

/-- The text of a line of output. -/
def Line.render : Line → String
  | .text s => s
  | .rupture r => (Exchange.rupture.encode r).render

end Seismicity
