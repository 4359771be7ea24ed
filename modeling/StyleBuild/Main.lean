import StyleBuild.Command.Run
import StyleBuild.Lines.Toolchain

/-!
# The program

Takes a picture of the directories a run can see, runs the command on it, and puts what has changed back
on the disk. The toolchain of lines is the one that is offered.
-/

set_option autoImplicit false

namespace StyleBuild.Main

partial def picture (site : List String) (e : IO.FS.DirEntry) : IO (List (List String × Entry)) := do
  if ← e.path.isDir then
    let mut found := [(site, Entry.dir)]
    for inner in ← e.path.readDir do
      found := found ++ (← picture (site ++ [inner.fileName]) inner)
    return found
  else if ← e.path.pathExists then
    return [(site, .file (← IO.FS.readBinFile e.path).toList)]
  else return []

/-- The texts among the arguments that may be paths: whole, after an equals sign, or after a short
option. -/
def pathTexts (args : List String) : List String :=
  args.flatMap fun a =>
    let cs := a.toList
    [a, String.ofList ((Text.cutAt '=' cs).map (·.2) |>.getD []), String.ofList (cs.drop 2)]

def extend (t : FileTree) (site : List String) : IO FileTree := do
  let entryOf (p : List String) : IO.FS.DirEntry :=
    { root := "/", fileName := "/".intercalate p }
  let e := entryOf site
  if t.find? site != none then return t
  else if ← e.path.pathExists then
    let top := if ← e.path.isDir then site else site.dropLast
    let found ← picture top (entryOf top)
    let t := t.makeDirs top.dropLast
    return { t with entries := found ++ t.entries }
  else return t

def visibleTree (args loadPaths : List String) : IO FileTree := do
  let current := (Path.ofText (← IO.currentDir).toString).parts
  let empty : FileTree := ⟨[], current⟩
  let mut t ← extend empty current
  for s in pathTexts args ++ loadPaths do
    if !s.isEmpty then
      t ← extend t (t.site (Path.ofText s))
  return t

def store (before after : FileTree) : IO Unit :=
  for (site, entry) in after.entries.reverse do
    match entry with
    | .file bytes =>
      if before.find? site != some entry then
        IO.FS.createDirAll (FileTree.absoluteText site.dropLast)
        IO.FS.writeBinFile (FileTree.absoluteText site) (ByteArray.mk bytes.toArray)
    | _ => pure ()

def offers : List (EntryPoint Lines.kit) :=
  [{ name := "lines", value := "lines", load := .toolchain (Lines.toolchain { name := "lines" }) }]

def run (args : List String) : IO UInt32 := do
  let listed := (← IO.getEnv loadPathVariable).getD ""
  let files ← visibleTree args (pathsOf listed ":")
  let world : World Lines.kit :=
    { files, environ := [(loadPathVariable, listed)], events := [], spans := [], log := []
      own := ({} : Lines.Notes) }
  let o := Command.run (fun _ => false) args offers world
  for e in o.logged do
    IO.eprintln (Console.line true e.level e.name e.fields)
  IO.eprint o.err
  IO.print o.out
  store files o.world.files
  if let some f := o.crash then
    IO.eprintln (f.kind ++ ": " ++ f.message)
  return o.exitCode.toUInt32

end StyleBuild.Main

def main (args : List String) : IO UInt32 := StyleBuild.Main.run args
