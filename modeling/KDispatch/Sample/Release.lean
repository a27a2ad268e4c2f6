import KDispatch.Toolchain

/-!
A release of stand-in tools: shell scripts that print their arguments on lines of their own, then the
content of every argument that names a file, and end with a given exit code. What such a tool has
recorded can be read off its output.
-/

namespace KDispatch.Sample

/-- The script of a stand-in tool. -/
def toolScript (tool : String) (code : Nat) : String :=
  "#!/bin/sh\n" ++
    "for arg in \"$@\"; do printf 'arg:%s\\n' \"$arg\"; done\n" ++
    "for arg in \"$@\"; do\n" ++
    "  if [ -f \"$arg\" ]; then printf 'input:'; cat \"$arg\"; printf '\\n'; fi\n" ++
    "done\n" ++
    "printf '" ++ tool ++ " diagnostics\\n' >&2\n" ++
    "exit " ++ toString code ++ "\n"

/-- The executable of a tool in the release at a location. -/
def executable (root : Location) (tool : String) : Location := root ++ ["bin", tool]

/-- Installs a stand-in tool. -/
def install (root : Location) (tool : String) (code : Nat) (fs : FileSystem) : FileSystem :=
  fs.put (executable root tool) (.file (utf8 (toolScript tool code)) true)

/-- Makes a release whose tools all succeed. -/
def installRelease (root : Location) (fs : FileSystem) : FileSystem :=
  let fs := (fs.put root .directory).put (root ++ ["bin"]) .directory
  [Tool.kast, Tool.krun, Tool.kprove].foldl (fun fs tool => install root tool.name 0 fs) fs

/-- What follows `start`, if the text starts with it. -/
def afterStart? (start : Text) (text : Text) : Option Text :=
  if start.isPrefixOf text then some (text.drop start.length) else none

/-- What follows the first occurrence of `mark`. -/
def afterMark? (mark : Text) : Text → Option Text
  | [] => afterStart? mark []
  | c :: rest =>
    match afterStart? mark (c :: rest) with
    | some after => some after
    | none => afterMark? mark rest

/-- The arguments that a stand-in tool has printed. -/
def recordedArguments (stdout : Text) : List Text :=
  (Text.lines stdout).filterMap (afterStart? "arg:".toList)

/-- The text without a line feed at its end. -/
def dropFinalLineFeed (text : Text) : Text :=
  if text.getLast? = some '\n' then text.dropLast else text

/-- The content of the first file that a stand-in tool has printed, and all that it printed after. -/
def recordedInput? (stdout : Text) : Option Text :=
  (afterMark? "input:".toList stdout).map dropFinalLineFeed

end KDispatch.Sample
