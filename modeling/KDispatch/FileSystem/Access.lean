import KDispatch.FileSystem.Basic

/-!
Paths, and access to what they name.
-/

/-! ## Paths

Paths and the locations they name. A path is walked name by name from the root or the working
directory; everything it passes through has to be a directory, or a link that leads to one.
-/

namespace KDispatch

namespace Path

/-- The names between the slashes of a path. -/
def names (path : String) : List String := (path.toList.splitOn '/').map String.ofList

def isAbsolute (path : String) : Bool := path.toList.head? == some '/'

def endsInSlash (path : String) : Bool := path.toList.getLast? == some '/'

/-- `relative` below the directory `base`, or `relative` itself if it is absolute. -/
def join (base relative : String) : String :=
  if isAbsolute relative then relative
  else if base = "" ∨ endsInSlash base then base ++ relative
  else base ++ "/" ++ relative

/-- The path with a dot and a further extension at its end. -/
def withExtension (path extension : String) : String := path ++ "." ++ extension

/-- The path without the slashes at its end. -/
def dropTrailingSlashes (path : String) : String :=
  String.ofList (path.toList.reverse.dropWhile (· == '/')).reverse

/-- The longest name of a file and the longest path, in bytes. -/
def maxNameLength : Nat := 255

def maxPathLength : Nat := 4095

end Path

namespace FileSystem

open Path

/-- How many symbolic links may be on the way through a path. -/
def maxLinks : Nat := 40

/-- Walks on from a location; the last name need not exist. A link is given to `onLink` with the names
behind it; one at the very end is only followed if `follows` says so. -/
def walkWith (fs : FileSystem) (follows : Bool)
    (onLink : Location → List String → Except SystemError Location) :
    Location → List String → Except SystemError Location
  | location, [] => .ok location
  | location, name :: names =>
    match fs.node? location with
    | none => .error .notFound
    | some .directory =>
      if name = "" ∨ name = "." then fs.walkWith follows onLink location names
      else if name = ".." then fs.walkWith follows onLink location.dropLast names
      else if maxNameLength < name.utf8ByteSize then .error .nameTooLong
      else
        match fs.node? (location ++ [name]) with
        | some (.link target) =>
          if names.isEmpty && !follows then .ok (location ++ [name])
          else onLink (if isAbsolute target then [] else location) (Path.names target ++ names)
        | _ => fs.walkWith follows onLink (location ++ [name]) names
    | some _ => .error .notADirectory

/-- Walks on from a location through at most so many links. -/
def walk (fs : FileSystem) (follows : Bool) :
    (links : Nat) → Location → List String → Except SystemError Location
  | 0 => fs.walkWith follows fun _ _ => .error .tooManyLinks
  | links + 1 => fs.walkWith follows (fs.walk follows links)

/-- The location that a path names, through the link at its end if `follows` says so. -/
def locateWith (fs : FileSystem) (follows : Bool) (path : String) : Except SystemError Location :=
  if path.toList.contains '\x00' then .error .nulInPath
  else if path = "" then .error .notFound
  else if maxPathLength < path.utf8ByteSize then .error .nameTooLong
  else fs.walk follows maxLinks (if isAbsolute path then [] else fs.workingDirectory) (names path)

/-- The location that a path names. -/
def locate (fs : FileSystem) (path : String) : Except SystemError Location :=
  fs.locateWith true path

/-- The location that a path names, where a link at its end stands for itself. -/
def locateEntry (fs : FileSystem) (path : String) : Except SystemError Location :=
  fs.locateWith false path

end FileSystem

end KDispatch

/-! ## Files

Opening, reading, creating and writing files. A directory can be opened for reading and fails when it
is read; creating a file empties one that exists. Devices hold nothing.
-/

namespace KDispatch.FileSystem

/-- The location of an existing file or directory. -/
def openToRead (fs : FileSystem) (path : String) : Except SystemError Location :=
  match fs.locate path with
  | .error e => .error e
  | .ok location => if (fs.node? location).isSome then .ok location else .error .notFound

/-- The bytes of what has been opened at a location. -/
def readAt (fs : FileSystem) (location : Location) : Except SystemError Bytes :=
  match fs.node? location with
  | some (.file content _) => .ok content
  | some .directory => .error .isADirectory
  | some (.device (.report content)) => .ok (utf8 content)
  | some (.device .terminal) => .error .noSuchDevice
  | some (.device _) | some .fifo => .ok []
  | some (.link _) | none => .error .notFound

def read (fs : FileSystem) (path : String) : Except SystemError Bytes :=
  match fs.openToRead path with
  | .error e => .error e
  | .ok location => fs.readAt location

/-- The text of a file. -/
def readText (fs : FileSystem) (path : String) : Except SystemError Text :=
  match fs.read path with
  | .error e => .error e
  | .ok bytes =>
    match Utf8.decode? bytes with
    | some text => .ok text
    | none => .error .invalidText

/-- Where a file of the given path would be created; a path that ends in a slash names a directory. -/
def locateToCreate (fs : FileSystem) (path : String) : Except SystemError Location :=
  if Path.endsInSlash path then
    let base := Path.dropTrailingSlashes path
    match fs.locate (if base = "" then "/" else base) with
    | .error e => .error e
    | .ok _ => .error .isADirectory
  else fs.locate path

/-- Why nothing can be added at a location: the directories that tell about the system stay as they
are. -/
def additionError? : Location → Option SystemError
  | "proc" :: _ => some .notFound
  | "sys" :: _ => some .permissionDenied
  | _ => none

/-- The empty file that an existing file, or a missing one, becomes; a device stays as it is. -/
def createAt (fs : FileSystem) (location : Location) : Except SystemError FileSystem :=
  match fs.node? location with
  | some .directory => .error .isADirectory
  | some (.file _ executable) => .ok ((fs.replace location (.file [] executable)).stamp location)
  | some (.device .terminal) => .error .noSuchDevice
  | some (.device _) | some .fifo => .ok fs
  | some (.link _) => .error .tooManyLinks
  | none =>
    match additionError? location with
    | some e => .error e
    | none => .ok ((fs.put location (.file [] false)).stamp location)

/-- Creates a file, or empties it; gives its location too. -/
def create (fs : FileSystem) (path : String) : Except SystemError (Location × FileSystem) :=
  match fs.locateToCreate path with
  | .error e => .error e
  | .ok location =>
    match fs.createAt location with
    | .error e => .error e
    | .ok fs => .ok (location, fs)

/-- `bytes` from `offset` on, over what `content` holds there; a gap is filled with zeros. -/
def overwrite (content : Bytes) (offset : Nat) (bytes : Bytes) : Bytes :=
  content.take offset ++ List.replicate (offset - content.length) 0 ++ bytes ++
    content.drop (offset + bytes.length)

/-- Writes bytes into the file at a location. -/
def writeAt (fs : FileSystem) (location : Location) (offset : Nat) (bytes : Bytes) : FileSystem :=
  match fs.node? location with
  | some (.file content executable) =>
    (fs.replace location (.file (overwrite content offset bytes) executable)).stamp location
  | _ => fs

/-- Replaces the content of a file, which is created if it is missing. -/
def write (fs : FileSystem) (path : String) (bytes : Bytes) :
    Except SystemError FileSystem :=
  match fs.create path with
  | .error e => .error e
  | .ok (location, fs) =>
    match fs.node? location with
    | some (.device .full) => if bytes = [] then .ok fs else .error .noSpace
    | some (.device (.report _)) => if bytes = [] then .ok fs else .error .inputOutput
    | _ => .ok (fs.writeAt location 0 bytes)

/-- Takes away the regular file at a location, if there is one. -/
def remove (fs : FileSystem) (location : Location) : FileSystem :=
  match fs.node? location with
  | some (.file _ _) => fs.erase location
  | _ => fs

/-- Makes an empty directory. -/
def makeDirectory (fs : FileSystem) (path : String) : Except SystemError FileSystem :=
  let base := Path.dropTrailingSlashes path
  match fs.locateEntry (if base = "" then path else base) with
  | .error e => .error e
  | .ok location =>
    if (fs.node? location).isSome then .error .alreadyExists
    else
      match additionError? location with
      | some .permissionDenied => .error .notPermitted
      | some e => .error e
      | none => .ok ((fs.put location .directory).stamp location)

/-- Makes the directories on the way through the given names, as far as they are missing. -/
def makeDirectoriesFrom (fs : FileSystem) : Location → List String → Except SystemError FileSystem
  | _, [] => .ok fs
  | location, name :: names =>
    match fs.walk true maxLinks location [name] with
    | .error e => .error e
    | .ok next =>
      match fs.node? next with
      | some .directory => fs.makeDirectoriesFrom next names
      | some _ => .error (if names.isEmpty then .alreadyExists else .notADirectory)
      | none =>
        match additionError? next with
        | some .permissionDenied => .error .notPermitted
        | some e => .error e
        | none => ((fs.put next .directory).stamp next).makeDirectoriesFrom next names

/-- Makes a directory and all that are missing above it. -/
def makeDirectories (fs : FileSystem) (path : String) : Except SystemError FileSystem :=
  fs.makeDirectoriesFrom (if Path.isAbsolute path then [] else fs.workingDirectory)
    (Path.names path)

end KDispatch.FileSystem
