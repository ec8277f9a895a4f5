import SqlBuild.BuildScript.Line
import SqlBuild.Bulk.Copy
import SqlBuild.Metadata.Actions
import SqlBuild.Metadata.Messages
import SqlBuild.Metadata.Options
import SqlBuild.Run.Context

/-!
# Running the metadata compilers

A compiler runs its plan in one session: each work table is emptied and loaded, and after all of
them the procedure is called. The first step that fails ends it; steps already done stay done. In
raw mode there is nothing to compile.
-/

namespace SqlBuild

namespace CompilerKind

/-- What the compiler is going to do. -/
def plan (kind : CompilerKind) (ctx : Context) : Planning CompilePlan :=
  let setup := ctx.env.setupDirectory
  match kind with
  | options => Metadata.optionsPlan ctx.files ctx.env
  | tableLocations => Metadata.tableLocationsPlan ctx.files ctx.env ctx.resolveWord
  | messages => ExceptT.mk (pure (Metadata.messagesPlan ctx.files setup ctx.env.language))
  | actions => ExceptT.mk (pure (Metadata.actionsPlan ctx.files setup))
  | requiredFields => ExceptT.mk (pure (Metadata.requiredFieldsPlan ctx.files setup))

end CompilerKind

namespace Compiler

/-- A field as it stands in a data file: tabs and line ends would end it. -/
def sanitize (field : Text) : Text :=
  field.map fun c => if c = '\t' ∨ c = '\r' ∨ c = '\n' then ' ' else c

/-- The data file of the rows for a work table. -/
def dataText (rows : List Row) : Text :=
  Text.unlines (rows.map fun row => Row.toLine (row.map sanitize))

/-- Fills a work table from a data file. -/
def fillTable (ctx : Context) (table : Text) (rows : List Row) : Exec Unit :=
  match ctx.scratch .rows (dataText rows) with
  | .ok (name, files) => do
    let transfer ← liftM (Bulk.load table (DataFile.find files name))
    match transfer.result with
    | .ok _ => pure ()
    | .error e => throw e
  | .error e => throw (.io e.cause)

/-- Empties and loads one work table. -/
def loadTable (ctx : Context) (table : Text) (rows : List Row) : Exec Unit := do
  let _ ← Exec.batch ("delete from " ++ table)
  fillTable ctx table rows

/-- Loads the work tables in order. -/
def loadAll (ctx : Context) (kind : CompilerKind) : List WorkTable → Exec Unit
  | [] => pure ()
  | load :: rest => do
    Exec.checkCancelled
    let table := ctx.resolveWord load.table
    loadTable ctx table load.rows
    liftM (Run.emit (kind.name ++ ": " ++ Text.ofNat load.rows.length ++
      " row(s) loaded into " ++ table ++ "."))
    loadAll ctx kind rest

/-- Does all a plan says, in one session. -/
def apply (ctx : Context) (kind : CompilerKind) (plan : CompilePlan) : Exec Unit :=
  Exec.withSession none do
    loadAll ctx kind plan.loads
    Exec.checkCancelled
    let text ← Exec.batch ("exec " ++ ctx.resolveWord plan.procedure)
    liftM (Run.emit text)

/-- The complaint of a compiler that failed. -/
def complaint (kind : CompilerKind) (reason : Text) : Text := kind.name ++ ": " ++ reason

/-- Runs a plan and tells how it went. -/
def follow (ctx : Context) (kind : CompilerKind) (plan : CompilePlan) : Exec Outcome := do
  match ← liftM (apply ctx kind plan).run with
  | .ok () =>
    liftM (Run.emit (kind.name ++ " completed."))
    return .success
  | .error .cancelled => throw .cancelled
  | .error e => Exec.failWith (complaint kind e.message)

/-- Gives warnings, in order. -/
def warnAll : List Text → Run Unit
  | [] => pure ()
  | text :: rest => do
    Run.warn text
    warnAll rest

/-- Runs a compiler. -/
def run (ctx : Context) (kind : CompilerKind) : Exec Outcome :=
  if ctx.env.rawMode then return {}
  else do
    let plan := (kind.plan ctx).run
    liftM (warnAll plan.warnings)
    match plan.value with
    | .ok plan => follow ctx kind plan
    | .error e => Exec.failWith (complaint kind e.message)

end Compiler

end SqlBuild
