import StepCommand.CommandLine

namespace StepCommand.Program

-- The names on the way from the root to a path, if there is something at it.
def locationOf (path : String) : IO (Option Location) := do
  try
    return some (Pathname.names (toString (← IO.FS.realPath path)))
  catch _ => return none

def isFolder (path : String) : IO Bool := do
  try
    return (← (← IO.FS.realPath path).isDir)
  catch _ => return false

def namesIn (path : String) : IO (List String) := do
  return ((← (← IO.FS.realPath path).readDir).map (·.fileName)).toList

-- Only metadata files are read; of all others it is enough that they are there.
partial def loadTree (path name : String) : IO FileTree := do
  if ← isFolder path then
    let entries ← (← namesIn path).mapM fun inner => do
      return (inner, ← loadTree (Pathname.join path inner) inner)
    return .directory entries
  else if Discovery.isMetadata name then return .file (← IO.FS.readBinFile path)
  else return .file ByteArray.empty

-- A directory is loaded without what is in its directories.
def loadFolder (path : String) : IO FileTree := do
  let entries ← (← namesIn path).mapM fun inner => do
    if ← isFolder (Pathname.join path inner) then return (inner, FileTree.directory [])
    else return (inner, .file ByteArray.empty)
  return .directory entries

def mount (root : FileTree) (location : Location) (tree : FileTree) : FileTree :=
  match root.find? location with
  | some _ => root
  | none => root.put location tree

-- What stands at a path, and the directories on the way to it.
def mountPath (root : FileTree) (path : String) (load : String → IO FileTree) : IO FileTree := do
  let mut mounted := root
  for outer in Pathname.parents path do
    if let some location ← locationOf outer then
      mounted := mount mounted location (.directory [])
  match ← locationOf path with
  | some location => return mounted.put location (← load path)
  | none => return mounted

def loadDisk (job : Job) : IO Disk := do
  let here := (← locationOf ".").getD []
  let root := mount (.directory []) here (.directory [])
  let root ← mountPath root (({} : Generator.Settings).withTarget job.target).directory
    fun path => do
      if ← isFolder path then loadFolder path else return .file ByteArray.empty
  let root ← mountPath root job.metadata fun path => loadTree path job.metadata
  return ⟨root, here⟩

-- Writes what differs from what was there before.
partial def saveTree (path : String) (before : Option FileTree) : FileTree → IO Unit
  | .file content =>
      match before with
      | some (.file old) => if old == content then pure () else IO.FS.writeBinFile path content
      | _ => IO.FS.writeBinFile path content
  | .directory entries => do
      let old ← match before with
        | some (.directory old) => pure old
        | _ => do
            IO.FS.createDir path
            pure []
      for (name, tree) in entries do
        saveTree (Pathname.join path name) (old.lookup name) tree

def jobOf (arguments : List String) : Job :=
  match CommandLine.Request.ofArguments arguments with
  | .ok (.run a) => CommandLine.job a
  | _ => {}

end StepCommand.Program

open StepCommand StepCommand.Program in
-- What a run may read is loaded first, and what the run has changed is written back.
def main (arguments : List String) : IO UInt32 := do
  let disk ← loadDisk (jobOf arguments)
  let (response, changed) := CommandLine.run arguments disk
  saveTree "/" (some disk.root) changed.root
  IO.print response.out
  IO.eprint response.err
  return response.code.toUInt32
