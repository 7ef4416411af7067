import Seismicity.Command.Arguments
import Seismicity.Command.Report
import Seismicity.Command.Terminal

/-!
# Running Requests

What each request of the command line does with the text of a model file.

## Main definitions

* `Outcome`: Output lines, notices and failure of a request.
* `Request.run`: The outcome of a request.
* `Outcome.log`: The notices that are shown.
-/

namespace Seismicity

/-- What comes of a request: the lines of its output, what was reported along
    the way, and why it failed, if it did. -/
structure Outcome where
  output : List Line
  notices : List Notice
  failure : Option CommandError

/-- Reads the model in a file, given its text or why it cannot be read. -/
def SourceModel.load (contents : Except FileFault String) :
    Except LoadError (SourceModel Float) :=
  match contents with
  | .error fault => .error (.io fault)
  | .ok text =>
    match Exchange.model.parse text with
    | .error error => .error (.json error)
    | .ok model => .ok model

/-- What is reported while a model is built. -/
def SourceModel.notices (model : SourceModel Float) : List Notice :=
  (SourceModel.unusualTotals model.occurrence model.entries).map Notice.weights
    ++ match model.build with
      | .error _ => []
      | .ok sources => [.built model.name sources.length]

/-- What is reported while batches are gridded, numbered from `task` on, up to
    the first that fails. -/
def Gridding.notices (spacing : Option Float) (task : Nat) :
    List (List (Source Float)) → List Notice
  | [] => []
  | batch :: rest =>
    match Gridding.gridSources batch spacing task with
    | .error _ => []
    | .ok _ =>
      ((Gridding.report? batch spacing task).map Notice.gridded).toList
        ++ Gridding.notices spacing (task + 1) rest

namespace Outcome

/-- The outcome of a request that failed. -/
def fail (notices : List Notice) (error : CommandError) : Outcome :=
  { output := [], notices := notices, failure := some error }

/-- A notice is shown: warnings and information always, the rest only where a
    detailed log is asked for, and single ruptures never. -/
def isShown (verbose : Bool) (notice : Notice) : Bool :=
  match notice.level with
  | .warn | .info => true
  | .debug => verbose
  | .trace => false

/-- An entry of the log: a line, or several, of which all but the first are
    moved to the right by four blanks. Control sequences are taken out, also
    one that reaches over the end of the line. -/
def entry (notice : Notice) : String :=
  Terminal.strip ("\n    ".intercalate (notice.line.splitOn "\n") ++ "\n")

/-- The log: an entry for each notice that is shown. -/
def log (outcome : Outcome) (verbose : Bool) : List String :=
  (outcome.notices.filter (isShown verbose)).map entry

/-- The exit status. -/
def status (outcome : Outcome) : Nat := if outcome.failure.isSome then 1 else 0

end Outcome

namespace Request

/-- Collapses sources group by group, and says so if there is no grid. -/
def collapseSources (spacing : Option Float) (sources : List (Source Float)) :
    List Notice × Except (Failure Float) (Grouped (Source Float)) :=
  let batches := Gridding.splitByGroup sources
  let warning : List Notice := if spacing.all (· ≤ 0.0) then [.noSpacing] else []
  (warning ++ Gridding.notices spacing 0 batches, Gridding.gridGroups batches spacing)

/-- The ruptures of a source that a request asks for. -/
def selectRuptures (source : PointLike Float) (options : RuptureOptions Float) (averaged : Bool)
    (limit : Option Nat) : List (Rupture Float) :=
  let all := if averaged then source.averagedRuptures options.asPoint else source.ruptures options
  match limit with
  | none => all
  | some n => all.take n

/-- The sources among which an id is looked up: those of the model if one of
    them has it, and else those that are left after collapsing. -/
def pool (id : String) (model : SourceModel Float) (sources : List (Source Float)) :
    List Notice × Except (Failure Float) (List (Source Float)) :=
  if sources.any fun source => source.id == id then ([], .ok sources)
  else
    let (notices, grouped) := collapseSources model.positiveSpacing? sources
    (notices, grouped.map Grouped.toList)

/-- Writes the ruptures of the source with a given id. -/
def writeRuptures (id : String) (options : RuptureOptions Float) (averaged : Bool)
    (limit : Option Nat) (model : SourceModel Float) (sources : List (Source Float)) : Outcome :=
  let (notices, found) := pool id model sources
  match found with
  | .error failure => .fail notices (.gridding failure)
  | .ok sources =>
    match sources.find? fun source => source.id == id with
    | none => .fail notices (.unknownSource id)
    | some source =>
      match source.pointLike? with
      | none => .fail notices (.notPointLike id)
      | some p =>
        let ruptures := selectRuptures p options averaged limit
        { output := ruptures.map .rupture
          notices := notices ++ [.written ruptures.length id]
          failure := none }

/-- The outcome of a request for a model and its sources. -/
def answer (request : Request) (model : SourceModel Float) (sources : List (Source Float)) :
    Outcome :=
  match request with
  | .info => { output := Report.info model.name sources, notices := [], failure := none }
  | .collapse spacing json =>
    let (notices, grouped) := collapseSources (spacing.or model.positiveSpacing?) sources
    match grouped with
    | .error failure => .fail notices (.gridding failure)
    | .ok grouped =>
      { output :=
          if json then Report.clusterLines grouped else Report.collapse sources.length grouped
        notices := notices
        failure := none }
  | .ruptures id options averaged limit => writeRuptures id options averaged limit model sources

/-- The outcome of a request for the model in a file. -/
def run (request : Request) (path : String) (contents : Except FileFault String) : Outcome :=
  match SourceModel.load contents with
  | .error error => .fail [] (.load path error)
  | .ok model =>
    match model.build with
    | .error failure => .fail model.notices (.invalid failure)
    | .ok sources =>
      let outcome := request.answer model sources
      { outcome with notices := model.notices ++ outcome.notices }

end Request

/-- The outcome of an invocation. -/
def Invocation.run (invocation : Invocation) (contents : Except FileFault String) : Outcome :=
  let outcome := invocation.request.run invocation.path contents
  { outcome with notices := (invocation.threads.map Notice.threads).toList ++ outcome.notices }

end Seismicity
