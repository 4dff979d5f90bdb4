/-!
# Input and output errors

Why an access to a file, a pipe or a peer failed.  The kind is what a program acts on; the text is
what a person reads, and depends on who noticed the failure.
-/

namespace DataSync

/-- The classes of input and output failures. -/
inductive IoKind where
  | notFound
  | permissionDenied
  | alreadyExists
  | invalidInput
  | invalidData
  | invalidFilename
  | isADirectory
  | notADirectory
  | directoryNotEmpty
  | brokenPipe
  | unexpectedEof
deriving DecidableEq

/-- The name of a class. -/
def IoKind.name : IoKind → String
  | .notFound => "NotFound"
  | .permissionDenied => "PermissionDenied"
  | .alreadyExists => "AlreadyExists"
  | .invalidInput => "InvalidInput"
  | .invalidData => "InvalidData"
  | .invalidFilename => "InvalidFilename"
  | .isADirectory => "IsADirectory"
  | .notADirectory => "NotADirectory"
  | .directoryNotEmpty => "DirectoryNotEmpty"
  | .brokenPipe => "BrokenPipe"
  | .unexpectedEof => "UnexpectedEof"

/-- The text of a failure about which only the class is known. -/
def IoKind.description : IoKind → String
  | .notFound => "entity not found"
  | .permissionDenied => "permission denied"
  | .alreadyExists => "entity already exists"
  | .invalidInput => "invalid input parameter"
  | .invalidData => "invalid data"
  | .invalidFilename => "invalid filename"
  | .isADirectory => "is a directory"
  | .notADirectory => "not a directory"
  | .directoryNotEmpty => "directory not empty"
  | .brokenPipe => "broken pipe"
  | .unexpectedEof => "unexpected end of file"

/-- A failure of an access to a file, a pipe or a peer. -/
structure IoError where
  kind : IoKind
  text : String
deriving DecidableEq

namespace IoError

/-- The failure about which only the class is known. -/
def ofKind (kind : IoKind) : IoError :=
  ⟨kind, kind.description⟩

/-- A path that names nothing. -/
def noSuchFile : IoError :=
  ⟨.notFound, "No such file or directory (os error 2)"⟩

/-- A directory where a file was wanted. -/
def isADirectory : IoError :=
  ⟨.isADirectory, "Is a directory (os error 21)"⟩

/-- A file where a directory was wanted. -/
def notADirectory : IoError :=
  ⟨.notADirectory, "Not a directory (os error 20)"⟩

/-- A name that is taken. -/
def fileExists : IoError :=
  ⟨.alreadyExists, "File exists (os error 17)"⟩

/-- A name longer than a directory can hold. -/
def nameTooLong : IoError :=
  ⟨.invalidFilename, "File name too long (os error 36)"⟩

/-- A name with a NUL character. -/
def nulInName : IoError :=
  ⟨.invalidInput, "file name contained an unexpected NUL byte"⟩

/-- File content that is not UTF-8 where text was wanted. -/
def notText : IoError :=
  ⟨.invalidData, "stream did not contain valid UTF-8"⟩

/-- A stream that ended inside a packet or frame. -/
def cutShort : IoError :=
  ⟨.unexpectedEof, "early eof"⟩

end IoError

end DataSync
