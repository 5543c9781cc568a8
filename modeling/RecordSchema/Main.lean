import RecordSchema.CommandLine.Run

/-! # The program

Reads what a call can depend on into a tree of files, runs the call, and carries out what it leaves
behind.

Some of what can end a call is left out, here and in all that the program is made of. A path of
modules may have any number of parts, and types, documents and their readers may nest as deeply as
the text is long: there is no stack to run out of. Every stream takes every text, whatever its
encoding is. A file or a directory is open to the program or locked, without finer rights, and
nobody else changes the tree during a call.
-/
namespace RecordSchema

/-- The tree with what the first names of a path lead to. The names are looked at from the left, so
that every one is looked for in a place that is known. What cannot be entered or read is locked. -/
def lookAt (tree : FileTree) (p : Path) (length : Nat) : IO FileTree := do
  match tree.locate { p with parts := p.parts.take length } with
  | .error _ => return tree
  | .ok place =>
    let file := (← IO.currentDir) / ("/" ++ String.intercalate "/" place)
    if ← file.isDir then
      let tree := { tree with directories := tree.directories ++ [place] }
      if ← (file / ".").pathExists then return tree
      else return { tree with locked := tree.locked ++ [place] }
    else if ← file.pathExists then
      try
        let bytes ← IO.FS.readBinFile file
        return { tree with files := tree.files ++ [(place, .binary bytes.toList)] }
      catch _ =>
        return { tree with
          files := tree.files ++ [(place, .binary [])]
          locked := tree.locked ++ [place] }
    else return tree

/-- The tree with everything on the way to the paths. -/
def surveyed (tree : FileTree) (paths : List Path) : IO FileTree :=
  paths.foldlM (fun tree p => (List.range (p.parts.length + 1)).foldlM (lookAt · p) tree) tree

/-- Every path that the arguments can name. -/
def mentionedPaths (directory : Path) (args : List String) : List Path :=
  [directory.child Settings.sharedFileName, directory.child Settings.ownFileName] ++
    args.flatMap fun arg =>
      Path.ofText arg :: ((CommandLine.splitValue arg).2.map Path.ofText).toList

end RecordSchema

open RecordSchema in
def main (args : List String) : IO UInt32 := do
  let directory := Path.ofText (← IO.currentDir).toString
  let empty : FileTree := { files := [], directories := [], work := directory.parts }
  let tree ← surveyed empty (mentionedPaths directory args)
  let level ← IO.getEnv "CONFQL_LOG_LEVEL"
  let o := CommandLine.run ⟨tree, directory, Library.bundled, level⟩ args
  for (place, s) in tree.newTexts o.tree do
    IO.FS.writeFile ("/" ++ String.intercalate "/" place) s
  IO.print o.output
  IO.eprint o.errors
  if let some f := o.escaped then IO.eprintln f.message
  return UInt32.ofNat o.exitCode.number
